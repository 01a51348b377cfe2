import Mathlib.Data.List.Basic
import Visa.Settings.Placeholder

namespace Visa.Settings

/-! The placeholders of a text, said without a scan: a text has one segmentation into characters
that are kept and placeholders, in which no placeholder begins at a kept character. Filling in
replaces the placeholders of the segmentation and nothing else. -/

/-! ## Segmentations -/

/-- What may stand between the braces of a placeholder. -/
structure IsName (name : List Char) : Prop where
  nonempty : name ≠ []
  unclosed : '}' ∉ name

/-- A placeholder starts the text. -/
def Begins (text : List Char) : Prop := ∃ name, IsName name ∧ written name <+: text

inductive Piece where
  | kept (letter : Char)
  | placeholder (name : List Char)

namespace Piece

def text : Piece → List Char
  | kept letter => [letter]
  | placeholder name => written name

def name? : Piece → Option String
  | kept _ => none
  | placeholder name => some (String.ofList name)

/-- A placeholder gives way to the value of its variable, if that is set. -/
def filled (environment : Environment) : Piece → List Char
  | kept letter => [letter]
  | placeholder name =>
      match environment (String.ofList name) with
      | some value => value.toList
      | none => written name

theorem filled_of_some {environment : Environment} {name : List Char} {value : String}
    (found : environment (String.ofList name) = some value) :
    (placeholder name).filled environment = value.toList := by
  rw [filled, found]

theorem filled_of_none {environment : Environment} {name : List Char}
    (unset : environment (String.ofList name) = none) :
    (placeholder name).filled environment = written name := by
  rw [filled, unset]

end Piece

def joined (pieces : List Piece) : List Char := pieces.flatMap Piece.text

/-- The placeholders are taken from the left and do not overlap: a character is kept only where none
begins. -/
structure Segmentation (text : List Char) (pieces : List Piece) : Prop where
  whole : joined pieces = text
  named : ∀ name, .placeholder name ∈ pieces → IsName name
  leftmost : ∀ letter later, .kept letter :: later <:+ pieces → ¬Begins (letter :: joined later)

variable {environment : Environment} {text rest name : List Char} {letter : Char}
  {pieces : List Piece} {piece : Piece}

/-- Behind the opening brace comes a letter of the name, and some time later a closing brace. -/
theorem begins_iff : Begins text ↔
    ∃ first inside, text = '$' :: '{' :: first :: inside ∧ first ≠ '}' ∧ '}' ∈ inside := by
  constructor
  · rintro ⟨name, isName, rest, rfl⟩
    obtain ⟨first, more, rfl⟩ := List.exists_cons_of_ne_nil isName.nonempty
    refine ⟨first, more ++ '}' :: rest, by simp [written], ?_, by simp⟩
    rintro rfl
    exact isName.unclosed List.mem_cons_self
  · rintro ⟨first, inside, rfl, solid, closed⟩
    obtain ⟨more, rest, rfl, free⟩ := List.eq_append_cons_of_mem closed
    exact ⟨first :: more, ⟨List.cons_ne_nil _ _, by simp [Ne.symm solid, free]⟩, rest,
      by simp [written]⟩

/-- Only one name fits in front of a closing brace. -/
theorem written_append_inj {other : List Char} {more : List Char} (isName : IsName name)
    (isOther : IsName other) (same : written name ++ rest = written other ++ more) :
    name = other ∧ rest = more := by
  have inside : name ++ '}' :: rest = other ++ '}' :: more := by simpa [written] using same
  have taken {name : List Char} (isName : IsName name) (rest : List Char) :
      (name ++ '}' :: rest).takeWhile (· != '}') = name := by
    have passed : ∀ letter ∈ name, (letter != '}') = true := fun letter member =>
      bne_iff_ne.mpr fun closing => isName.unclosed (closing ▸ member)
    simp [List.takeWhile_append_of_pos passed]
  obtain rfl : name = other := by rw [← taken isName rest, inside, taken isOther more]
  exact ⟨rfl, by simpa using inside⟩

namespace Segmentation

theorem nil : Segmentation [] [] := ⟨rfl, nofun, by simp⟩

theorem cons_kept (segmentation : Segmentation rest pieces) (solid : ¬Begins (letter :: rest)) :
    Segmentation (letter :: rest) (.kept letter :: pieces) where
  whole := congrArg (List.cons letter) segmentation.whole
  named name member := segmentation.named name (by simpa using member)
  leftmost first later isSuffix := by
    rcases List.suffix_cons_iff.mp isSuffix with same | within
    · obtain ⟨⟨rfl⟩, rfl⟩ := List.cons.inj same
      rwa [segmentation.whole]
    · exact segmentation.leftmost first later within

theorem cons_placeholder (segmentation : Segmentation rest pieces) (isName : IsName name) :
    Segmentation (written name ++ rest) (.placeholder name :: pieces) where
  whole := congrArg (written name ++ ·) segmentation.whole
  named other member := by
    rcases List.mem_cons.mp member with same | later
    · cases same
      exact isName
    · exact segmentation.named other later
  leftmost letter later isSuffix := by
    rcases List.suffix_cons_iff.mp isSuffix with same | within
    · cases same
    · exact segmentation.leftmost letter later within

theorem tail (segmentation : Segmentation text (piece :: pieces)) :
    Segmentation (joined pieces) pieces where
  whole := rfl
  named name member := segmentation.named name (List.mem_cons_of_mem _ member)
  leftmost letter later isSuffix :=
    segmentation.leftmost letter later (isSuffix.trans (List.suffix_cons _ _))

theorem not_begins (segmentation : Segmentation text (.kept letter :: pieces)) :
    ¬Begins (letter :: joined pieces) :=
  segmentation.leftmost letter pieces List.suffix_rfl

theorem isName (segmentation : Segmentation text (.placeholder name :: pieces)) : IsName name :=
  segmentation.named name List.mem_cons_self

theorem exists_pieces (text : List Char) : ∃ pieces, Segmentation text pieces := by
  induction size : text.length using Nat.strongRecOn generalizing text with
  | ind length ih =>
      by_cases begins : Begins text
      · obtain ⟨name, isName, rest, rfl⟩ := begins
        have shorter : rest.length < length := by
          rw [← size, written]
          simp only [List.length_append, List.length_cons]
          omega
        obtain ⟨pieces, segmentation⟩ := ih _ shorter rest rfl
        exact ⟨_, segmentation.cons_placeholder isName⟩
      · cases text with
        | nil => exact ⟨[], nil⟩
        | cons letter rest =>
            obtain ⟨pieces, segmentation⟩ := ih rest.length (by simp [← size]) rest rfl
            exact ⟨_, segmentation.cons_kept begins⟩

theorem head_unique {other : Piece} {others : List Piece}
    (first : Segmentation text (piece :: pieces)) (second : Segmentation text (other :: others)) :
    piece = other ∧ joined pieces = joined others := by
  have same := first.whole.trans second.whole.symm
  cases piece with
  | kept letter =>
      cases other with
      | kept letter => exact ⟨congrArg _ (List.cons.inj same).1, (List.cons.inj same).2⟩
      | placeholder name =>
          have begins : Begins (letter :: joined pieces) :=
            ⟨name, second.isName, joined others, same.symm⟩
          exact absurd begins first.not_begins
  | placeholder name =>
      cases other with
      | kept letter =>
          have begins : Begins (letter :: joined others) :=
            ⟨name, first.isName, joined pieces, same⟩
          exact absurd begins second.not_begins
      | placeholder other =>
          obtain ⟨rfl, rest⟩ := written_append_inj first.isName second.isName same
          exact ⟨rfl, rest⟩

theorem unique {others : List Piece} (first : Segmentation text pieces)
    (second : Segmentation text others) : pieces = others := by
  induction pieces generalizing text others with
  | nil =>
      cases others with
      | nil => rfl
      | cons other others =>
          have same := first.whole.trans second.whole.symm
          cases other <;> cases same
  | cons piece pieces ih =>
      cases others with
      | nil =>
          have same := first.whole.trans second.whole.symm
          cases piece <;> cases same
      | cons other others =>
          obtain ⟨rfl, rest⟩ := head_unique first second
          have later := second.tail
          rw [← rest] at later
          rw [ih first.tail later]

end Segmentation

/-! ## The scan

Filling in and collecting the names go over a text in the same steps. -/

section Scan

variable (environment : Environment)

theorem scan_kept (plain : letter ≠ '$' ∨ rest.head? ≠ some '{') :
    fill environment .plain (letter :: rest) = letter :: fill environment .plain rest ∧
      namesFrom .plain (letter :: rest) = namesFrom .plain rest := by
  by_cases dollar : letter = '$'
  · subst dollar
    cases rest with
    | nil => exact ⟨rfl, rfl⟩
    | cons next more =>
        have noBrace : next ≠ '{' := by simpa using plain
        by_cases again : next = '$'
        · subst again
          exact ⟨rfl, rfl⟩
        · simp [fill, namesFrom, noBrace, again]
  · simp [fill, namesFrom, dollar]

theorem scan_inside (unclosed : '}' ∉ name) (letters rest : List Char) :
    fill environment (.name letters) (name ++ '}' :: rest) =
        filled environment (letters.reverse ++ name) ++ fill environment .plain rest ∧
      (letters.reverse ++ name ≠ [] → namesFrom (.name letters) (name ++ '}' :: rest) =
        String.ofList (letters.reverse ++ name) :: namesFrom .plain rest) := by
  induction name generalizing letters with
  | nil => simp +contextual [fill, namesFrom]
  | cons letter name ih =>
      rw [List.mem_cons, not_or] at unclosed
      have later := ih unclosed.2 (letter :: letters)
      rw [List.reverse_cons, List.append_assoc, List.singleton_append] at later
      simpa only [List.cons_append, fill, namesFrom, if_neg (Ne.symm unclosed.1)] using later

theorem scan_unclosed (unclosed : '}' ∉ text) (letters : List Char) :
    fill environment (.name letters) text = ['$', '{'] ++ letters.reverse ++ text ∧
      namesFrom (.name letters) text = [] := by
  induction text generalizing letters with
  | nil => simp [fill, namesFrom]
  | cons letter text ih =>
      rw [List.mem_cons, not_or] at unclosed
      have later := ih unclosed.2 (letter :: letters)
      rw [List.reverse_cons] at later
      simpa [fill, namesFrom, Ne.symm unclosed.1] using later

theorem scan_of_not_mem (unclosed : '}' ∉ text) :
    substitute environment text = text ∧ names text = [] := by
  induction text with
  | nil => exact ⟨rfl, rfl⟩
  | cons letter text ih =>
      rw [List.mem_cons, not_or] at unclosed
      by_cases opening : letter = '$' ∧ text.head? = some '{'
      · obtain ⟨rfl, brace⟩ := opening
        obtain ⟨inside, rfl⟩ := List.head?_eq_some_iff.mp brace
        rw [List.mem_cons, not_or] at unclosed
        exact scan_unclosed environment unclosed.2.2 []
      · obtain ⟨kept, named⟩ := scan_kept environment (not_and_or.mp opening)
        exact ⟨kept.trans (congrArg _ (ih unclosed.2).1), named.trans (ih unclosed.2).2⟩

/-- Where no placeholder begins, one character is passed. -/
theorem scan_cons (solid : ¬Begins (letter :: rest)) :
    substitute environment (letter :: rest) = letter :: substitute environment rest ∧
      names (letter :: rest) = names rest := by
  by_cases opening : letter = '$' ∧ rest.head? = some '{'
  · obtain ⟨rfl, brace⟩ := opening
    obtain ⟨inside, rfl⟩ := List.head?_eq_some_iff.mp brace
    by_cases closed : '}' ∈ inside
    · -- Nothing stands between the braces.
      obtain ⟨first, more, rfl⟩ := List.exists_cons_of_ne_nil (List.ne_nil_of_mem closed)
      have empty : first = '}' := by
        by_contra other
        have later : '}' ∈ more := by simpa [Ne.symm other] using closed
        exact solid (begins_iff.mpr ⟨first, more, rfl, other, later⟩)
      subst empty
      exact ⟨rfl, rfl⟩
    · have behind : '}' ∉ '{' :: inside := by simp [closed]
      obtain ⟨same, none⟩ := scan_of_not_mem environment behind
      rw [same, none]
      exact scan_unclosed environment closed []
  · exact scan_kept environment (not_and_or.mp opening)

/-- A placeholder is passed as a whole. -/
theorem scan_written (isName : IsName name) (rest : List Char) :
    substitute environment (written name ++ rest) =
        (Piece.placeholder name).filled environment ++ substitute environment rest ∧
      names (written name ++ rest) = String.ofList name :: names rest := by
  obtain ⟨kept, named⟩ := scan_inside environment isName.unclosed [] rest
  have value : filled environment name = (Piece.placeholder name).filled environment := by
    rw [filled, if_neg (by simpa using isName.nonempty)]
    rfl
  rw [List.reverse_nil, List.nil_append] at kept named
  have shape : written name ++ rest = '$' :: '{' :: (name ++ '}' :: rest) := by simp [written]
  rw [shape, ← value]
  exact ⟨kept, named isName.nonempty⟩

def outcome (pieces : List Piece) : List Char := pieces.flatMap (Piece.filled environment)

theorem Segmentation.scan_eq (segmentation : Segmentation text pieces) :
    substitute environment text = outcome environment pieces ∧
      names text = pieces.filterMap Piece.name? := by
  induction pieces generalizing text with
  | nil =>
      cases segmentation.whole
      exact ⟨rfl, rfl⟩
  | cons piece pieces ih =>
      obtain ⟨filledLater, namedLater⟩ := ih segmentation.tail
      rw [← segmentation.whole, outcome, List.flatMap_cons, List.filterMap_cons, ← outcome,
        ← filledLater, ← namedLater]
      cases piece with
      | kept letter => exact scan_cons environment segmentation.not_begins
      | placeholder name => exact scan_written environment segmentation.isName _

end Scan

/-! ## Filling in again -/

/-- Between its neighbours the value cannot help to make a placeholder. -/
structure Inert (value : String) : Prop where
  nonempty : value ≠ ""
  free : ∀ mark ∈ ['$', '{', '}'], mark ∉ value.toList

/-- The variables among the names are unset or have inert values. -/
def InertOn (environment : Environment) (names : List String) : Prop :=
  ∀ name ∈ names, ∀ value, environment name = some value → Inert value

theorem outcome_of_unset
    (unset : ∀ name ∈ pieces.filterMap Piece.name?, environment name = none) :
    outcome environment pieces = joined pieces := by
  refine List.flatMap_congr fun piece member => ?_
  cases piece with
  | kept letter => rfl
  | placeholder name =>
      exact Piece.filled_of_none (unset _ (List.mem_filterMap.mpr ⟨_, member, rfl⟩))

theorem substitute_append_of_not_mem {front : List Char} (free : '$' ∉ front) (rest : List Char) :
    substitute environment (front ++ rest) = front ++ substitute environment rest := by
  induction front with
  | nil => rfl
  | cons letter front ih =>
      rw [List.mem_cons, not_or] at free
      rw [List.cons_append, List.cons_append, ← ih free.2]
      exact (scan_kept environment (.inl (Ne.symm free.1))).1

theorem close_mem_joined (closed : '}' ∈ outcome environment pieces) : '}' ∈ joined pieces := by
  obtain ⟨piece, member, inside⟩ := List.mem_flatMap.mp closed
  refine List.mem_flatMap.mpr ⟨piece, member, ?_⟩
  cases piece with
  | kept letter => exact inside
  | placeholder name => simp [Piece.text, written]

/-- An opening brace that starts the outcome has been kept. -/
theorem exists_kept_open (inert : InertOn environment (pieces.filterMap Piece.name?))
    (opened : outcome environment pieces = '{' :: rest) :
    ∃ later, pieces = .kept '{' :: later ∧ outcome environment later = rest := by
  cases pieces with
  | nil => contradiction
  | cons piece later =>
      cases piece with
      | kept letter =>
          obtain ⟨rfl, same⟩ := List.cons.inj opened
          exact ⟨later, rfl, same⟩
      | placeholder name =>
          rw [outcome, List.flatMap_cons] at opened
          cases found : environment (String.ofList name) with
          | none =>
              rw [Piece.filled_of_none found] at opened
              cases opened
          | some value =>
              rw [Piece.filled_of_some found] at opened
              obtain ⟨nonempty, free⟩ := inert _ List.mem_cons_self value found
              cases letters : value.toList with
              | nil => exact absurd (String.toList_eq_nil_iff.mp letters) nonempty
              | cons first more =>
                  rw [letters] at opened free
                  cases (List.cons.inj opened).1
                  exact absurd List.mem_cons_self (free '{' (by simp))

theorem exists_kept_close (closed : joined pieces = '}' :: rest) :
    ∃ later, pieces = .kept '}' :: later := by
  cases pieces with
  | nil => contradiction
  | cons piece later =>
      cases piece with
      | kept letter =>
          cases (List.cons.inj closed).1
          exact ⟨later, rfl⟩
      | placeholder name => cases closed

/-- No placeholder begins at a kept character that did not begin there before. -/
theorem begins_of_outcome (inert : InertOn environment (pieces.filterMap Piece.name?))
    (begins : Begins (letter :: outcome environment pieces)) :
    Begins (letter :: joined pieces) := by
  obtain ⟨first, inside, same, solid, closed⟩ := begins_iff.mp begins
  obtain ⟨rfl, opened⟩ := List.cons.inj same
  obtain ⟨later, rfl, behind⟩ := exists_kept_open inert opened
  have laterClosed : '}' ∈ joined later := by
    have inOutcome : '}' ∈ outcome environment later := behind ▸ List.mem_cons_of_mem _ closed
    exact close_mem_joined inOutcome
  obtain ⟨start, more, front⟩ := List.exists_cons_of_ne_nil (List.ne_nil_of_mem laterClosed)
  have different : start ≠ '}' := by
    rintro rfl
    obtain ⟨last, rfl⟩ := exists_kept_close front
    exact solid (List.cons.inj behind).1.symm
  rw [front, List.mem_cons] at laterClosed
  refine begins_iff.mpr ⟨start, more, ?_, different, laterClosed.resolve_left (Ne.symm different)⟩
  rw [← front]
  rfl

theorem Segmentation.substitute_outcome (segmentation : Segmentation text pieces)
    (inert : InertOn environment (pieces.filterMap Piece.name?)) :
    substitute environment (outcome environment pieces) = outcome environment pieces := by
  induction pieces generalizing text with
  | nil => rfl
  | cons piece pieces ih =>
      have inertLater : InertOn environment (pieces.filterMap Piece.name?) := fun name member =>
        inert name (by
          rw [List.filterMap_cons]
          split
          · exact member
          · exact List.mem_cons_of_mem _ member)
      have later := ih segmentation.tail inertLater
      rw [outcome, List.flatMap_cons, ← outcome]
      cases piece with
      | kept letter =>
          have solid : ¬Begins (letter :: outcome environment pieces) := fun begins =>
            segmentation.not_begins (begins_of_outcome inertLater begins)
          exact (scan_cons environment solid).1.trans (congrArg _ later)
      | placeholder name =>
          cases found : environment (String.ofList name) with
          | none =>
              have passed := (scan_written environment segmentation.isName
                (outcome environment pieces)).1
              rw [Piece.filled_of_none found] at passed ⊢
              rw [passed, later]
          | some value =>
              have valueFree := (inert _ List.mem_cons_self value found).free '$' (by simp)
              rw [Piece.filled_of_some found, substitute_append_of_not_mem valueFree, later]

/-- A text has one segmentation. Filling in replaces those placeholders whose variables are set and
does not look at the values again; so it depends on nothing but the variables that are named, without
any of them it changes nothing, and with inert values the outcome is final. -/
theorem substitute_once (text : List Char) :
    (∃! pieces, Segmentation text pieces) ∧
      (∀ pieces, Segmentation text pieces →
        names text = pieces.filterMap Piece.name? ∧
        ∀ environment, substitute environment text = pieces.flatMap (Piece.filled environment)) ∧
      (∀ environment : Environment, (∀ name ∈ names text, environment name = none) →
        substitute environment text = text) ∧
      (∀ first second : Environment, (∀ name ∈ names text, first name = second name) →
        substitute first text = substitute second text) ∧
      ∀ environment, InertOn environment (names text) →
        substitute environment (substitute environment text) = substitute environment text := by
  obtain ⟨pieces, segmentation⟩ := Segmentation.exists_pieces text
  refine ⟨⟨pieces, segmentation, fun others other => other.unique segmentation⟩,
    fun others other => ⟨(other.scan_eq fun _ => none).2,
      fun environment => (other.scan_eq environment).1⟩,
    fun environment unset => ?_, fun first second same => substitute_congr same,
    fun environment inert => ?_⟩
  · obtain ⟨same, named⟩ := segmentation.scan_eq environment
    rw [named] at unset
    rw [same, ← segmentation.whole]
    exact outcome_of_unset unset
  · obtain ⟨same, named⟩ := segmentation.scan_eq environment
    rw [named] at inert
    rw [same]
    exact segmentation.substitute_outcome inert

/-- A value that names a variable, and one that makes a placeholder with its neighbours. -/
example :
    substitute (Environment.ofList [("A", "${B}"), ("B", "b"), ("D", "$")])
      "${A} ${D}{B} ${C}".toList = "${B} ${B} ${C}".toList := by decide

end Visa.Settings
