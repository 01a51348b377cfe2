import Visa.Proofs.Capital
import Visa.Proofs.Lookup

namespace Visa.Record

/-! What a lookup makes of the text of a value: it gives back the value of a literal, of a word or
of a list of literals, whatever white space the text has and whatever follows the value. -/

open Json (Decoder Draft Token)
open Json.Draft (separated)
open Json.Token (AllSpace Spelled)

variable {field : Field} {record rest : List Char} {mark : Token} {letter : Char}
  {more : List Token}

theorem isBlank_of_allSpace {space : List Char} (blank : AllSpace space) :
    ∀ letter ∈ space, Text.isBlank letter := by
  intro letter member
  apply Text.isBlank_of_isWhitespace
  have white := blank letter member
  simp only [Token.isSpace, Bool.or_eq_true, beq_iff_eq] at white
  rcases white with ((rfl | rfl) | rfl) | rfl <;> decide

/-! ## Strings -/

theorem string?_of_valueText {text : String} {ending : Option Json.Flaw}
    (found : valueText field record = some rest)
    (spelled : Spelled (.string ⟨.ok text, ending⟩ :: more) rest) :
    string? field record = some (Text.trim text.toList) := by
  obtain ⟨space, behind, rfl, quoteFree, blank, _⟩ := spelled.exists_of_text
  have opened : Text.after? ['"'] (space ++ '"' :: (text.toList ++ '"' :: behind)) = some _ :=
    Text.after?_mark _ (blank.not_mem rfl)
  have closed := Text.before?_mark behind quoteFree
  simp [string?, found, opened, closed]

/-! ## Counts and words -/

theorem takeWhile_eq_nil {accepts : Char → Bool}
    (refused : ∀ letter, Token.isSpace letter ∨ letter ∈ Token.marks → accepts letter = false)
    (spelled : Spelled (mark :: more) rest) (isMark : mark.mark? = some letter) :
    rest.takeWhile accepts = [] := by
  obtain ⟨space, behind, rfl, blank, _⟩ := spelled.exists_of_mark isMark
  cases space with
  | nil =>
      have notAccepted := refused letter (.inr (Json.Token.mem_marks isMark))
      rw [List.nil_append, List.takeWhile_cons_of_neg (by simp [notAccepted])]
  | cons first space =>
      have notAccepted := refused first (.inl (blank first List.mem_cons_self))
      rw [List.cons_append, List.takeWhile_cons_of_neg (by simp [notAccepted])]

theorem run?_of_valueText {accepts : Char → Bool} {space run behind : List Char}
    (found : valueText field record = some (space ++ (run ++ behind))) (blank : AllSpace space)
    (nonempty : run ≠ []) (solid : ∀ letter ∈ run, Text.isBlank letter = false)
    (accepted : ∀ letter ∈ run, accepts letter) (ended : behind.takeWhile accepts = []) :
    run? accepts field record = some run := by
  have started : Text.trimStart (space ++ (run ++ behind)) = run ++ behind := by
    rw [Text.trimStart_of_blank _ (isBlank_of_allSpace blank)]
    cases run with
    | nil => contradiction
    | cons first run =>
        rw [List.cons_append, Text.trimStart,
          List.dropWhile_cons_of_neg (by simp [solid first List.mem_cons_self])]
  have taken : (run ++ behind).takeWhile accepts = run := by
    rw [List.takeWhile_append_of_pos accepted, ended, List.append_nil]
  simp only [run?, found, started, taken, Option.bind_eq_bind, Option.bind_some]
  rw [if_neg (by simpa using nonempty)]

theorem isCountLetter_refused (letter : Char)
    (other : Token.isSpace letter ∨ letter ∈ Token.marks) : isCountLetter letter = false := by
  have every : (Token.marks.all fun mark => !isCountLetter mark) := by decide
  simp only [Token.isSpace, Bool.or_eq_true, beq_iff_eq] at other
  rcases other with (((rfl | rfl) | rfl) | rfl) | mark
  iterate 4 decide
  simpa using List.all_eq_true.mp every letter mark

theorem isAlphabetic_refused (letter : Char)
    (other : Token.isSpace letter ∨ letter ∈ Token.marks) : Text.isAlphabetic letter = false := by
  have every : (Token.marks.all fun mark => !Text.isAlphabetic mark) := by decide
  simp only [Token.isSpace, Bool.or_eq_true, beq_iff_eq] at other
  rcases other with (((rfl | rfl) | rfl) | rfl) | mark
  iterate 4 decide
  simpa using List.all_eq_true.mp every letter mark

theorem count?_of_digits {value : Nat} (space : List Char) {behind : List Char}
    (found : valueText field record = some (space ++ (Nat.toDigits 10 value ++ behind)))
    (blank : AllSpace space) (ended : behind.takeWhile isCountLetter = []) :
    count? field record = some (Nat.toDigits 10 value) := by
  have digits : ∀ letter ∈ Nat.toDigits 10 value, letter.isDigit := fun letter member =>
    Nat.isDigit_of_mem_toDigits (by decide) (by decide) member
  refine run?_of_valueText found blank Nat.toDigits_ne_nil ?_ ?_ ended
  · intro letter member
    exact Text.isBlank_of_isDigit (digits letter member)
  · intro letter member
    rw [isCountLetter, digits letter member, Bool.true_or]

theorem count?_of_valueText {value : Nat} (found : valueText field record = some rest)
    (spelled : Spelled (.number (.natural value) :: mark :: more) rest)
    (isMark : mark.mark? = some letter) :
    count? field record = some (Nat.toDigits 10 value) := by
  obtain ⟨space, behind, rfl, blank, spelledBehind⟩ := spelled.exists_of_natural
  exact count?_of_digits space found blank
    (takeWhile_eq_nil isCountLetter_refused spelledBehind isMark)

theorem boolean?_of_word {value : Bool} (space : List Char) {behind : List Char}
    (found : valueText field record = some (space ++ (Token.boolText value ++ behind)))
    (blank : AllSpace space) (ended : behind.takeWhile Text.isAlphabetic = []) :
    boolean? field record = some (Token.boolText value) := by
  have nonempty : Token.boolText value ≠ [] := by cases value <;> decide
  have solid : (Token.boolText value).all fun letter => !Text.isBlank letter := by
    cases value <;> decide
  have accepted : (Token.boolText value).all Text.isAlphabetic := by cases value <;> decide
  exact run?_of_valueText found blank nonempty (by simpa using solid) (by simpa using accepted)
    ended

theorem boolean?_of_valueText {value : Bool} (found : valueText field record = some rest)
    (spelled : Spelled (.bool value :: mark :: more) rest) (isMark : mark.mark? = some letter) :
    boolean? field record = some (Token.boolText value) := by
  obtain ⟨space, behind, rfl, blank, spelledBehind⟩ := spelled.exists_of_bool
  exact boolean?_of_word space found blank
    (takeWhile_eq_nil isAlphabetic_refused spelledBehind isMark)

/-! ## Lists -/

def itemsOf (inside : List Char) : List (List Char) :=
  ((inside.splitOnP (· == ',')).map fun item => unquote (Text.trim item)).filter
    fun item => !item.isEmpty

theorem items_of_valueText {inside opened : List Char}
    (found : valueText field record = some rest) (opening : Text.after? ['['] rest = some opened)
    (closing : Text.before? [']'] opened = some inside) : items field record = itemsOf inside := by
  simp [items, found, opening, closing, itemsOf]

theorem items_of_valueText_eq_none (missing : valueText field record = none) :
    items field record = [] := by
  simp [items, missing]

theorem itemsOf_append_comma (first second : List Char) :
    itemsOf (first ++ ',' :: second) = itemsOf first ++ itemsOf second := by
  rw [itemsOf, List.splitOnP_append_cons first second (by decide), List.map_append,
    List.filter_append, itemsOf, itemsOf]

theorem itemsOf_of_not_mem {inside : List Char} (free : ',' ∉ inside) :
    itemsOf inside = [unquote (Text.trim inside)].filter fun item => !item.isEmpty := by
  have whole : inside.splitOnP (· == ',') = [inside] := by
    apply List.splitOnP_eq_singleton
    intro letter member
    exact beq_eq_false_iff_ne.mpr fun comma => free (comma ▸ member)
  rw [itemsOf, whole, List.map_singleton]

theorem itemsOf_space {space : List Char} (blank : AllSpace space) : itemsOf space = [] := by
  rw [itemsOf_of_not_mem (blank.not_mem rfl),
    Text.trim_of_blank (isBlank_of_allSpace blank)]
  rfl

theorem itemsOf_literal {lead inside trail : List Char} (blankLead : AllSpace lead)
    (nonempty : inside ≠ []) (free : ',' ∉ inside) (blankTrail : AllSpace trail) :
    itemsOf (lead ++ '"' :: (inside ++ '"' :: trail)) = [inside] := by
  have trimmed := Text.trim_surrounded '"' inside '"' (isBlank_of_allSpace blankLead) (by decide)
    (by decide) (isBlank_of_allSpace blankTrail)
  have freeLead : ',' ∉ lead := blankLead.not_mem rfl
  have freeTrail : ',' ∉ trail := blankTrail.not_mem rfl
  rw [itemsOf_of_not_mem (by simp [freeLead, free, freeTrail]), trimmed]
  simp [unquote, nonempty]

/-- A text that an item of a list can be: it is there, and nothing in it ends the item. -/
def Simple (text : String) : Prop :=
  text.toList ≠ [] ∧ ',' ∉ text.toList ∧ ']' ∉ text.toList

theorem exists_item {text : String} {ending : Option Json.Flaw} (simple : Simple text)
    (spelled : Spelled (.string ⟨.ok text, ending⟩ :: mark :: more) rest)
    (isMark : mark.mark? = some letter) :
    ∃ item behind, rest = item ++ letter :: behind ∧ itemsOf item = [text.toList] ∧ ']' ∉ item ∧
      Spelled more behind := by
  obtain ⟨nonempty, commaFree, bracketFree⟩ := simple
  obtain ⟨lead, next, rfl, _, blankLead, spelledMark⟩ := spelled.exists_of_text
  obtain ⟨trail, behind, rfl, blankTrail, spelledBehind⟩ := spelledMark.exists_of_mark isMark
  have freeLead : ']' ∉ lead := blankLead.not_mem rfl
  have freeTrail : ']' ∉ trail := blankTrail.not_mem rfl
  exact ⟨lead ++ '"' :: (text.toList ++ '"' :: trail), behind, by simp,
    itemsOf_literal blankLead nonempty commaFree blankTrail,
    by simp [freeLead, freeTrail, bracketFree], spelledBehind⟩

theorem exists_inside {items : List Draft} {texts : List String}
    (strings : List.Forall₂ (fun item text => ∃ ending, item = .string ⟨.ok text, ending⟩)
      items texts)
    (simple : ∀ text ∈ texts, Simple text)
    (spelled : Spelled (separated (items.map Draft.tokens) ++ .listClose :: more) rest) :
    ∃ inside behind, rest = inside ++ ']' :: behind ∧ ']' ∉ inside ∧
      itemsOf inside = texts.map String.toList := by
  induction strings generalizing rest with
  | nil =>
      obtain ⟨space, behind, rfl, blank, _⟩ := spelled.exists_of_mark rfl
      exact ⟨space, behind, rfl, blank.not_mem rfl, itemsOf_space blank⟩
  | @cons item text items texts isString later ih =>
      obtain ⟨ending, rfl⟩ := isString
      obtain ⟨simpleText, simpleLater⟩ := List.forall_mem_cons.mp simple
      cases later with
      | nil =>
          obtain ⟨item, behind, rfl, listed, free, _⟩ := exists_item simpleText spelled rfl
          exact ⟨item, behind, rfl, free, listed⟩
      | cons isNext later =>
          rw [List.map_cons, Json.Draft.separated_cons_of_ne_nil _ (by simp),
            List.append_assoc] at spelled
          obtain ⟨item, next, rfl, listed, free, spelledNext⟩ := exists_item simpleText spelled rfl
          obtain ⟨inside, behind, rfl, freeInside, listedInside⟩ := ih simpleLater spelledNext
          refine ⟨item ++ ',' :: inside, behind, by simp, by simp [free, freeInside], ?_⟩
          rw [itemsOf_append_comma, listed, listedInside]
          rfl

theorem items_of_list {items : List Draft} {texts : List String}
    (found : valueText field record = some rest)
    (strings : List.Forall₂ (fun item text => ∃ ending, item = .string ⟨.ok text, ending⟩)
      items texts)
    (simple : ∀ text ∈ texts, Simple text)
    (spelled : Spelled ((Draft.list items none).tokens ++ more) rest) :
    Record.items field record = texts.map String.toList := by
  rw [Json.Draft.tokens, Json.Draft.itemTokens_eq_map, List.cons_append, List.append_assoc]
    at spelled
  obtain ⟨space, opened, rfl, blank, spelledInside⟩ := spelled.exists_of_mark rfl
  obtain ⟨inside, behind, rfl, free, listed⟩ := exists_inside strings simple spelledInside
  have opening : Text.after? ['['] (space ++ '[' :: (inside ++ ']' :: behind)) = some _ :=
    Text.after?_mark _ (blank.not_mem rfl)
  rw [items_of_valueText found opening (Text.before?_mark behind free), listed]

end Visa.Record
