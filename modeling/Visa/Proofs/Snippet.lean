import Mathlib.Data.List.Chain
import Visa.Proofs.Pieces
import Visa.Report

namespace Visa

/-! Snippets are normal forms. The words of a text tell its snippet: they stand in it with single
spaces between them, and three dots stand for what goes beyond the bound. Shown again, a snippet
stays as it is, wherever it was cut. -/

namespace Text

variable {text word mark : List Char} {found : List (List Char)} {letter : Char}

/-! ## Words -/

/-- The words of a text are its longest runs of letters that are not blank. -/
inductive Worded : List Char → List (List Char) → Prop
  | nothing : Worded [] []
  | blank {letter : Char} {text : List Char} {words : List (List Char)} (white : isBlank letter)
      (later : Worded text words) : Worded (letter :: text) words
  | last {word : List Char} (filled : word ≠ [])
      (solid : ∀ letter ∈ word, isBlank letter = false) : Worded word [word]
  | word {word text : List Char} {letter : Char} {words : List (List Char)} (filled : word ≠ [])
      (solid : ∀ letter ∈ word, isBlank letter = false) (white : isBlank letter)
      (later : Worded text words) : Worded (word ++ letter :: text) (word :: words)

theorem words_append_cons (front rest : List Char) (white : isBlank letter) :
    words (front ++ letter :: rest) = words front ++ words rest := by
  rw [words, List.splitOnP_append_cons _ _ white, List.filter_append, words, words]

theorem words_of_solid (filled : word ≠ []) (solid : ∀ letter ∈ word, isBlank letter = false) :
    words word = [word] := by
  rw [words, List.splitOnP_eq_singleton solid]
  simp [filled]

theorem Worded.words_eq (worded : Worded text found) : words text = found := by
  induction worded with
  | nothing => rfl
  | blank white _ ih => exact (words_append_cons [] _ white).trans ih
  | last filled solid => exact words_of_solid filled solid
  | word filled solid white _ ih =>
      rw [words_append_cons _ _ white, words_of_solid filled solid, ih, List.singleton_append]

theorem exists_worded (text : List Char) : ∃ found, Worded text found := by
  induction text with
  | nil => exact ⟨[], .nothing⟩
  | cons letter rest ih =>
      obtain ⟨found, worded⟩ := ih
      by_cases white : isBlank letter
      · exact ⟨found, .blank white worded⟩
      · -- In front of a blank the letter is a word of its own, otherwise it begins the next one.
        have visible : isBlank letter = false := Bool.eq_false_iff.mpr white
        have alone : ∀ other ∈ [letter], isBlank other = false :=
          List.forall_mem_singleton.mpr visible
        cases worded with
        | nothing => exact ⟨[[letter]], .last (List.cons_ne_nil _ _) alone⟩
        | blank next later =>
            have begun := Worded.word (List.cons_ne_nil letter []) alone next later
            exact ⟨_, begun⟩
        | last filled solid =>
            exact ⟨_, .last (List.cons_ne_nil _ _) (List.forall_mem_cons.mpr ⟨visible, solid⟩)⟩
        | word filled solid next later =>
            have begun := Worded.word (List.cons_ne_nil letter _)
              (List.forall_mem_cons.mpr ⟨visible, solid⟩) next later
            exact ⟨_, begun⟩

theorem existsUnique_worded (text : List Char) : ∃! found, Worded text found := by
  obtain ⟨found, worded⟩ := exists_worded text
  exact ⟨found, worded, fun other wordedOther => wordedOther.words_eq.symm.trans worded.words_eq⟩

/-! ## Spaced texts -/

/-- Every blank in the text is a single space between two words. -/
structure Spaced (text : List Char) : Prop where
  start : ∀ letter ∈ text.head?, isBlank letter = false
  stop : ∀ letter ∈ text.getLast?, isBlank letter = false
  plain : ∀ letter ∈ text, isBlank letter → letter = ' '
  single : text.IsChain fun letter next => isBlank letter → isBlank next = false

theorem spaced_of_solid (solid : ∀ letter ∈ text, isBlank letter = false) : Spaced text where
  start letter first := solid letter (List.mem_of_mem_head? first)
  stop letter last := solid letter (List.mem_of_mem_getLast? last)
  plain letter inside white := by simp [solid letter inside] at white
  single := by
    have later : text.Pairwise fun letter next => isBlank letter → isBlank next = false :=
      List.pairwise_of_forall_mem_list fun _ _ next inside _ => solid next inside
    exact later.isChain

theorem spaced_append_cons_iff (filled : word ≠ [])
    (solid : ∀ letter ∈ word, isBlank letter = false) (white : isBlank letter) :
    Spaced (word ++ letter :: text) ↔ letter = ' ' ∧ text ≠ [] ∧ Spaced text := by
  have first : (word ++ letter :: text).head? = word.head? := by
    simp [List.head?_append, List.head?_eq_some_head filled]
  have last (nonempty : text ≠ []) : (word ++ letter :: text).getLast? = text.getLast? := by
    rw [← List.singleton_append, ← List.append_assoc, List.getLast?_append_of_ne_nil _ nonempty]
  constructor
  · rintro ⟨_, stop, plain, single⟩
    obtain ⟨next, behind⟩ := List.isChain_cons.mp (List.isChain_append.mp single).2.1
    -- A blank at the end has no word behind it.
    have nonempty : text ≠ [] := by
      rintro rfl
      have visible := stop letter (by simp)
      simp [white] at visible
    refine ⟨plain letter (by simp) white, nonempty, fun other here => next other here white,
      last nonempty ▸ stop, fun other inside => plain other ?_, behind⟩
    exact List.mem_append_right _ (List.mem_cons_of_mem _ inside)
  · rintro ⟨rfl, nonempty, spaced⟩
    have front := spaced_of_solid solid
    refine ⟨first ▸ front.start, last nonempty ▸ spaced.stop, ?_, ?_⟩
    · exact List.forall_mem_append.mpr
        ⟨front.plain, List.forall_mem_cons.mpr ⟨fun _ => rfl, spaced.plain⟩⟩
    · refine List.isChain_append.mpr ⟨front.single, ?_, fun other here ended => ?_⟩
      · exact List.isChain_cons.mpr ⟨fun other here _ => spaced.start other here, spaced.single⟩
      · have visible := front.stop other here
        simp [visible]

theorem spaced_intercalate
    (parts : ∀ word ∈ found, word ≠ [] ∧ ∀ letter ∈ word, isBlank letter = false) :
    Spaced ([' '].intercalate found) := by
  induction found with
  | nil => exact spaced_of_solid nofun
  | cons word rest ih =>
      obtain ⟨⟨filled, solid⟩, later⟩ := List.forall_mem_cons.mp parts
      by_cases none : rest = []
      · rw [none, List.intercalate_singleton]
        exact spaced_of_solid solid
      · have nonempty : [' '].intercalate rest ≠ [] := fun empty =>
          none ((intercalate_eq_nil_iff fun other listed => (later other listed).1).mp empty)
        rw [List.intercalate_cons_of_ne_nil none, List.append_assoc, List.singleton_append,
          spaced_append_cons_iff filled solid (by decide)]
        exact ⟨rfl, nonempty, ih later⟩

theorem spaced_intercalate_words (text : List Char) : Spaced ([' '].intercalate (words text)) :=
  spaced_intercalate fun word listed =>
    ⟨by simpa using (List.mem_filter.mp listed).2, solid_of_mem_words word listed⟩

theorem Worded.intercalate_eq (worded : Worded text found) (spaced : Spaced text) :
    [' '].intercalate found = text := by
  induction worded with
  | nothing => rfl
  | blank white _ _ =>
      have visible := spaced.start _ rfl
      simp [white] at visible
  | last _ _ => exact List.intercalate_singleton
  | @word word text letter others filled solid white _ ih =>
      obtain ⟨rfl, nonempty, behind⟩ := (spaced_append_cons_iff filled solid white).mp spaced
      have joined := ih behind
      have more : others ≠ [] := by
        rintro rfl
        exact nonempty joined.symm
      rw [List.intercalate_cons_of_ne_nil more, joined, List.append_assoc, List.singleton_append]

theorem Spaced.intercalate_words (spaced : Spaced text) : [' '].intercalate (words text) = text := by
  obtain ⟨found, worded⟩ := exists_worded text
  rw [worded.words_eq, worded.intercalate_eq spaced]

/-- A mark without blanks can be put behind any start of a spaced text: a space at the end of the
start then stands between two words. -/
theorem Spaced.take_append (spaced : Spaced text) (filled : mark ≠ [])
    (solid : ∀ letter ∈ mark, isBlank letter = false) (count : Nat) :
    Spaced (text.take count ++ mark) where
  start := by
    cases front : text.take count with
    | nil => exact (spaced_of_solid solid).start
    | cons letter rest =>
        obtain ⟨behind, whole⟩ := front ▸ List.take_prefix count text
        exact fun other here => spaced.start other (whole ▸ here)
  stop := by
    rw [List.getLast?_append_of_ne_nil _ filled]
    exact (spaced_of_solid solid).stop
  plain := List.forall_mem_append.mpr
    ⟨fun letter inside => spaced.plain letter (List.mem_of_mem_take inside),
      (spaced_of_solid solid).plain⟩
  single := (spaced.single.take count).append (spaced_of_solid solid).single
    fun _ _ letter first _ => (spaced_of_solid solid).start letter first

end Text

namespace Report

variable {text : List Char}

theorem snippet_of_spaced (spaced : Text.Spaced text) :
    snippet text =
      if text.length > snippetLength then text.take snippetLength ++ "...".toList else text := by
  rw [snippet, spaced.intercalate_words]

theorem spaced_snippet (record : List Char) : Text.Spaced (snippet record) := by
  have flat := Text.spaced_intercalate_words record
  have dots : ∀ letter ∈ "...".toList, Text.isBlank letter = false := by
    intro letter inside
    obtain rfl : letter = '.' := by simpa using inside
    decide
  unfold snippet
  dsimp only
  split
  · exact flat.take_append (by decide) dots snippetLength
  · exact flat

theorem length_snippet (record : List Char) :
    (snippet record).length ≤ snippetLength ∨
      (snippet record).length = snippetLength + 3 ∧ "...".toList <:+ snippet record := by
  unfold snippet
  dsimp only
  split <;> rename_i long
  · refine .inr ⟨?_, List.suffix_append _ _⟩
    rw [List.length_append, List.length_take, Nat.min_eq_left (Nat.le_of_lt long)]
    rfl
  · exact .inl (Nat.not_lt.mp long)

/-- The texts that are their own snippets. -/
theorem snippet_eq_self_iff : snippet text = text ↔ Text.Spaced text ∧
    (text.length ≤ snippetLength ∨
      text.length = snippetLength + 3 ∧ "...".toList <:+ text) := by
  constructor
  · intro same
    rw [← same]
    exact ⟨spaced_snippet text, length_snippet text⟩
  · rintro ⟨spaced, short | ⟨long, start, rfl⟩⟩
    · rw [snippet_of_spaced spaced, if_neg (Nat.not_lt.mpr short)]
    · have bound : start.length = snippetLength := by simpa using long
      rw [snippet_of_spaced spaced, if_pos (by omega), ← bound, List.take_left]

/-- A snippet shows the words of its record with single spaces between them, up to a bound behind
which three dots stand. It is told by these words alone, and it is its own snippet. -/
theorem snippet_normal_form (record : List Char) :
    (∃! words, Text.Worded record words) ∧
      (∀ words, Text.Worded record words →
        (([' '].intercalate words).length ≤ 80 → snippet record = [' '].intercalate words) ∧
        (80 < ([' '].intercalate words).length →
          snippet record = ([' '].intercalate words).take 80 ++ "...".toList) ∧
        ∀ other, Text.Worded other words → snippet other = snippet record) ∧
      (snippet record).length ≤ 83 ∧ Text.Spaced (snippet record) ∧
      snippet (snippet record) = snippet record := by
  refine ⟨Text.existsUnique_worded record, fun words worded => ⟨fun short => ?_, fun long => ?_,
    fun other same => ?_⟩, ?_, spaced_snippet record,
    snippet_eq_self_iff.mpr ⟨spaced_snippet record, length_snippet record⟩⟩
  · rw [snippet, worded.words_eq]
    exact if_neg (Nat.not_lt.mpr short)
  · rw [snippet, worded.words_eq]
    exact if_pos long
  · rw [snippet, snippet, worded.words_eq, same.words_eq]
  · have bounds := length_snippet record
    unfold snippetLength at bounds
    omega

/-- The cut leaves a space in front of the dots. -/
example : snippet (List.replicate 79 'é' ++ "\u3000\n語".toList) =
    List.replicate 79 'é' ++ " ...".toList := by decide

end Report

end Visa
