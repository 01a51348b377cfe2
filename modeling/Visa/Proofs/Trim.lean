import Mathlib.Data.List.Basic
import Mathlib.Data.List.TakeWhile
import Visa.Text.Blank

namespace Visa.Text

/-! What trimming does to a text that is put together from parts. -/

variable {text : List Char}

theorem isBlank_of_visible {letter : Char} (lower : 0x20 < letter.toNat)
    (upper : letter.toNat < 0x7F) : isBlank letter = false := by
  simp only [isBlank, blankRanges, covers]
  rw [if_neg (by omega), if_neg (by omega), if_neg (by omega), if_neg (by omega),
    if_pos (by omega)]

theorem isBlank_of_isDigit {letter : Char} (digit : letter.isDigit) : isBlank letter = false := by
  have bounds := Char.isDigit_iff_toNat.mp digit
  have first : '0'.toNat = 48 := rfl
  have last : '9'.toNat = 57 := rfl
  exact isBlank_of_visible (by omega) (by omega)

theorem exists_append_trimEnd (text : List Char) :
    ∃ blanks, text = trimEnd text ++ blanks ∧ ∀ letter ∈ blanks, isBlank letter := by
  refine ⟨(text.reverse.takeWhile isBlank).reverse, ?_, ?_⟩
  · rw [trimEnd, ← List.reverse_append, List.takeWhile_append_dropWhile, List.reverse_reverse]
  · intro letter member
    exact List.mem_takeWhile_imp (List.mem_reverse.mp member)

theorem trimEnd_subset (text : List Char) : trimEnd text ⊆ text := by
  obtain ⟨blanks, same, _⟩ := exists_append_trimEnd text
  intro letter member
  rw [same]
  exact List.mem_append_left _ member

theorem trimEnd_ne_nil (solid : ¬allBlank text) : trimEnd text ≠ [] := by
  intro empty
  obtain ⟨blanks, same, blank⟩ := exists_append_trimEnd text
  rw [empty, List.nil_append] at same
  exact solid (List.all_eq_true.mpr (same ▸ blank))

theorem trimEnd_append (before : List Char) (solid : ¬allBlank text) :
    trimEnd (before ++ text) = before ++ trimEnd text := by
  have rest : text.reverse.dropWhile isBlank ≠ [] := fun empty =>
    trimEnd_ne_nil solid (by rw [trimEnd, empty, List.reverse_nil])
  rw [trimEnd, List.reverse_append, List.dropWhile_append, if_neg (by simpa using rest),
    List.reverse_append, List.reverse_reverse, trimEnd]

theorem exists_trimEnd_cons (letter : Char) (rest : List Char) (solid : isBlank letter = false) :
    ∃ tail, trimEnd (letter :: rest) = letter :: tail := by
  have nonempty : trimEnd (letter :: rest) ≠ [] := trimEnd_ne_nil (by simp [allBlank, solid])
  obtain ⟨blanks, same, _⟩ := exists_append_trimEnd (letter :: rest)
  cases ended : trimEnd (letter :: rest) with
  | nil => exact absurd ended nonempty
  | cons first tail =>
      rw [ended, List.cons_append, List.cons.injEq] at same
      exact ⟨tail, by rw [same.1]⟩

theorem trimStart_append_cons {letter : Char} (lead rest : List Char)
    (solid : isBlank letter = false) :
    trimStart (lead ++ letter :: rest) = lead.dropWhile isBlank ++ letter :: rest := by
  rw [trimStart, List.dropWhile_append]
  split <;> rename_i empty
  · rw [List.isEmpty_iff.mp empty, List.dropWhile_cons_of_neg (by simp [solid]), List.nil_append]
  · rfl

theorem trimStart_of_blank {lead : List Char} (rest : List Char)
    (blank : ∀ letter ∈ lead, isBlank letter) : trimStart (lead ++ rest) = trimStart rest := by
  rw [trimStart, List.dropWhile_append_of_pos blank, trimStart]

theorem trimEnd_of_blank {trail : List Char} (front : List Char)
    (blank : ∀ letter ∈ trail, isBlank letter) : trimEnd (front ++ trail) = trimEnd front := by
  have trailing : ∀ letter ∈ trail.reverse, isBlank letter := fun letter member =>
    blank letter (List.mem_reverse.mp member)
  rw [trimEnd, List.reverse_append, List.dropWhile_append_of_pos trailing, trimEnd]

/-- Padding changes nothing of what trimming leaves. -/
theorem trim_padded {lead trail : List Char} (text : List Char)
    (blankLead : ∀ letter ∈ lead, isBlank letter) (blankTrail : ∀ letter ∈ trail, isBlank letter) :
    trim (lead ++ (text ++ trail)) = trim text := by
  rw [trim, trimStart_of_blank _ blankLead, trim, trimStart, trimStart, List.dropWhile_append]
  split <;> rename_i empty
  · rw [List.isEmpty_iff.mp empty, List.dropWhile_eq_nil_iff.mpr blankTrail]
  · exact trimEnd_of_blank _ blankTrail

theorem trim_map {change : Char → Char} (keeps : ∀ letter, isBlank (change letter) = isBlank letter)
    (text : List Char) : trim (text.map change) = (trim text).map change := by
  have same : isBlank ∘ change = isBlank := funext keeps
  rw [trim, trimEnd, trimStart, List.dropWhile_map, same, ← List.map_reverse, List.dropWhile_map,
    same, ← List.map_reverse, trim, trimEnd, trimStart]

theorem trim_surrounded {lead trail : List Char} (first : Char) (middle : List Char) (last : Char)
    (blankLead : ∀ letter ∈ lead, isBlank letter) (solidFirst : isBlank first = false)
    (solidLast : isBlank last = false) (blankTrail : ∀ letter ∈ trail, isBlank letter) :
    trim (lead ++ first :: (middle ++ last :: trail)) = first :: (middle ++ [last]) := by
  have parts : lead ++ first :: (middle ++ last :: trail) =
      lead ++ (first :: (middle ++ [last]) ++ trail) := by simp
  have ended : trimEnd [last] = [last] := by
    rw [trimEnd, List.reverse_singleton, List.dropWhile_cons_of_neg (by simp [solidLast])]
    rfl
  rw [parts, trim_padded _ blankLead blankTrail, trim, trimStart,
    List.dropWhile_cons_of_neg (by simp [solidFirst]), ← List.cons_append,
    trimEnd_append _ (by simp [allBlank, solidLast]), ended]

theorem exists_append_trim (text : List Char) :
    ∃ lead trail, text = lead ++ (trim text ++ trail) ∧ (∀ letter ∈ lead, isBlank letter) ∧
      ∀ letter ∈ trail, isBlank letter := by
  obtain ⟨trail, ended, blankTrail⟩ := exists_append_trimEnd (trimStart text)
  refine ⟨text.takeWhile isBlank, trail, ?_, fun _ => List.mem_takeWhile_imp, blankTrail⟩
  rw [trim, ← ended, trimStart, List.takeWhile_append_dropWhile]

theorem trim_trim (text : List Char) : trim (trim text) = trim text := by
  obtain ⟨lead, trail, whole, blankLead, blankTrail⟩ := exists_append_trim text
  have padded := trim_padded (trim text) blankLead blankTrail
  rw [← whole] at padded
  exact padded.symm

theorem mem_trim {letter : Char} (solid : isBlank letter = false) (inside : letter ∈ text) :
    letter ∈ trim text := by
  obtain ⟨lead, trail, whole, blankLead, blankTrail⟩ := exists_append_trim text
  have notLead : letter ∉ lead := fun inLead => by simp [blankLead letter inLead] at solid
  have notTrail : letter ∉ trail := fun inTrail => by simp [blankTrail letter inTrail] at solid
  rw [whole] at inside
  simpa [notLead, notTrail] using inside

theorem count_trim {letter : Char} (solid : isBlank letter = false) :
    (trim text).count letter = text.count letter := by
  obtain ⟨lead, trail, whole, blankLead, blankTrail⟩ := exists_append_trim text
  have notLead : letter ∉ lead := fun inLead => by simp [blankLead letter inLead] at solid
  have notTrail : letter ∉ trail := fun inTrail => by simp [blankTrail letter inTrail] at solid
  have counted := congrArg (List.count letter) whole
  rw [List.count_append, List.count_append, List.count_eq_zero.mpr notLead,
    List.count_eq_zero.mpr notTrail] at counted
  omega

theorem trim_of_blank (blank : ∀ letter ∈ text, isBlank letter) : trim text = [] := by
  have started := trimStart_of_blank [] blank
  rw [List.append_nil] at started
  rw [trim, started]
  rfl

theorem dropWhile_isBlank_eq_self
    (first : ∀ letter, text.head? = some letter → isBlank letter = false) :
    text.dropWhile isBlank = text := by
  cases text with
  | nil => rfl
  | cons letter rest => exact List.dropWhile_cons_of_neg (by simp [first letter rfl])

/-- Only the ends of a text decide whether there is something to trim. -/
theorem trim_eq_self (first : ∀ letter, text.head? = some letter → isBlank letter = false)
    (last : ∀ letter, text.getLast? = some letter → isBlank letter = false) : trim text = text := by
  have ended : text.reverse.dropWhile isBlank = text.reverse :=
    dropWhile_isBlank_eq_self fun letter found => last letter (by rwa [← List.head?_reverse])
  rw [trim, trimStart, dropWhile_isBlank_eq_self first, trimEnd, ended, List.reverse_reverse]

theorem trim_of_solid (solid : ∀ letter ∈ text, isBlank letter = false) : trim text = text :=
  trim_eq_self (fun letter found => solid letter (List.mem_of_head? found)) fun letter found =>
    solid letter (List.mem_of_getLast? found)

theorem isBlank_of_head?_dropWhile {letter : Char}
    (found : (text.dropWhile isBlank).head? = some letter) : isBlank letter = false := by
  have stops := List.head?_dropWhile_not isBlank text
  rw [found] at stops
  simpa using stops

theorem isBlank_of_head?_trim {letter : Char} (found : (trim text).head? = some letter) :
    isBlank letter = false := by
  obtain ⟨blanks, whole, _⟩ := exists_append_trimEnd (trimStart text)
  have started : (trimStart text).head? = some letter := by
    rw [whole, List.head?_append, ← trim, found, Option.some_or]
  exact isBlank_of_head?_dropWhile started

theorem isBlank_of_getLast?_trim {letter : Char} (found : (trim text).getLast? = some letter) :
    isBlank letter = false := by
  rw [trim, trimEnd, List.getLast?_reverse] at found
  exact isBlank_of_head?_dropWhile found

end Visa.Text
