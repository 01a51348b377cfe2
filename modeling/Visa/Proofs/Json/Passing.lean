import Visa.Proofs.Json.Tokens
import Visa.Proofs.Search

namespace Visa.Json

/-! A search for a quoted name in a JSON text. In a whole value a mark follows every literal, so
the search finds the name exactly where a literal consists of it. -/

open Text (PassedBy quotedName)

namespace Token

inductive Delimited : List Token → Prop
  | nil : Delimited []
  | string {text : Literal} {mark : Token} {letter : Char} {rest : List Token}
      (isMark : mark.mark? = some letter) (more : Delimited rest) :
      Delimited (.string text :: mark :: rest)
  | other {token : Token} {rest : List Token} (notString : ∀ text, token ≠ .string text)
      (more : Delimited rest) : Delimited (token :: rest)

theorem ne_string_of_mark {mark : Token} {letter : Char} (isMark : mark.mark? = some letter)
    (text : Literal) : mark ≠ .string text := by
  rintro rfl
  contradiction

theorem Delimited.mark (mark : Token) {letter : Char} {rest : List Token}
    (isMark : mark.mark? = some letter) (more : Delimited rest) : Delimited (mark :: rest) :=
  .other (ne_string_of_mark isMark) more

/-- The characters of marks; names have none of them. -/
def marks : List Char := "[]\x7b\x7d,:".toList

theorem mem_marks {token : Token} {letter : Char} (isMark : token.mark? = some letter) :
    letter ∈ marks := by
  cases token <;> cases isMark <;> decide

theorem Lexeme.quote_not_mem {token : Token} {lexeme : List Char} (form : Lexeme token lexeme)
    (notString : ∀ text, token ≠ .string text) : '"' ∉ lexeme := by
  cases form with
  | mark found =>
      intro member
      have inMarks := mem_marks found
      rw [← List.mem_singleton.mp member] at inMarks
      exact absurd inMarks (by decide)
  | null => decide
  | bool value => cases value <;> decide
  | number nonempty numerals decimal => exact fun member => absurd (numerals '"' member) (by decide)
  | string plain => exact absurd rfl (notString _)

def plain (text : List Char) : Token := .string ⟨.ok (String.ofList text), none⟩

/-- A search for a name passes over a text in which no literal consists of it. -/
theorem Spelled.passedBy {name text : List Char} {tokens : List Token}
    (spelled : Spelled tokens text) (delimited : Delimited tokens) (nameFree : '"' ∉ name)
    (unmarked : ∀ mark ∈ marks, mark ∉ name) (absent : plain name ∉ tokens) :
    PassedBy (quotedName name) text := by
  induction delimited generalizing text with
  | nil =>
      rw [spelled.eq_nil]
      exact fun rest => rfl
  | @string literal mark letter tokens isMark more ih =>
      simp only [List.mem_cons, not_or] at absent
      obtain ⟨space, inside, afterLiteral, rfl, rfl, free, blank, spelledMark⟩ :=
        spelled.exists_of_string
      obtain ⟨gap, afterMark, rfl, gapBlank, spelledRest⟩ := spelledMark.exists_of_mark isMark
      have different : inside ≠ name := fun same => absent.1 (by rw [plain, same])
      have notQuote : letter ≠ '"' := by
        rintro rfl
        exact absurd (mem_marks isMark) (by decide)
      intro rest
      have literalPassed := Text.after?_quotedName_of_ne
        (gap ++ letter :: (afterMark ++ rest)) nameFree free different
      have markPassed := Text.after?_quotedName_of_mark (afterMark ++ rest)
        (gapBlank.not_mem rfl) notQuote (unmarked letter (mem_marks isMark))
      have spacePassed := Text.passedBy_of_not_mem name (blank.not_mem rfl)
        ('"' :: (inside ++ '"' :: (gap ++ letter :: (afterMark ++ rest))))
      simp only [List.append_assoc, List.cons_append] at spacePassed ⊢
      rw [spacePassed, literalPassed, markPassed, ih spelledRest absent.2.2 rest]
  | other notString more ih =>
      simp only [List.mem_cons, not_or] at absent
      cases spelled with
      | cons blank form spelledRest =>
          have spacePassed := Text.passedBy_of_not_mem name (blank.not_mem rfl)
          have formPassed := Text.passedBy_of_not_mem name (form.quote_not_mem notString)
          exact spacePassed.append (formPassed.append (ih spelledRest absent.2))

end Token

namespace Draft

open Token (Delimited)

def Ready (pieces : List (List Token)) : Prop :=
  ∀ piece ∈ pieces, ∀ (mark : Token) {letter : Char} {rest : List Token},
    mark.mark? = some letter → Delimited rest → Delimited (piece ++ mark :: rest)

theorem delimited_continued {pieces : List (List Token)} (ready : Ready pieces) :
    Delimited (continued pieces) := by
  induction pieces with
  | nil => exact .nil
  | cons piece rest ih =>
      have more := ih fun other member => ready other (List.mem_cons_of_mem _ member)
      have first := ready piece List.mem_cons_self .comma rfl more
      simpa [continued] using first

theorem delimited_separated {pieces : List (List Token)} (mark : Token) {letter : Char}
    {rest : List Token} (ready : Ready pieces) (isMark : mark.mark? = some letter)
    (more : Delimited rest) : Delimited (separated pieces ++ mark :: rest) := by
  induction pieces with
  | nil => exact .mark mark isMark more
  | cons piece later ih =>
      have readyLater : Ready later := fun other member =>
        ready other (List.mem_cons_of_mem _ member)
      by_cases last : later = []
      · subst last
        have first := ready piece List.mem_cons_self mark isMark more
        simpa [separated] using first
      · have first := ready piece List.mem_cons_self .comma rfl (ih readyLater)
        rw [separated_cons_of_ne_nil piece last, List.append_assoc]
        exact first

theorem Sound.delimited {draft : Draft} (sound : draft.Sound) {mark : Token} {letter : Char}
    {rest : List Token} (isMark : mark.mark? = some letter) (more : Delimited rest) :
    Delimited (draft.tokens ++ mark :: rest) := by
  induction sound generalizing mark letter rest with
  | null => exact .other nofun (.mark mark isMark more)
  | bool value => exact .other nofun (.mark mark isMark more)
  | number value => exact .other nofun (.mark mark isMark more)
  | string sound => exact .string isMark more
  | @list items sound ih =>
      have ready : Ready (itemTokens items) := by
        rw [itemTokens_eq_map]
        intro piece member mark letter rest isMark more
        obtain ⟨item, inItems, rfl⟩ := List.mem_map.mp member
        exact ih item inItems isMark more
      have inside := delimited_separated .listClose ready rfl (.mark mark isMark more)
      simpa [tokens] using Delimited.mark .listOpen rfl inside
  | @object members keys values keysIH valuesIH =>
      have ready : Ready (memberTokens members) := by
        rw [memberTokens_eq_map]
        intro piece member mark letter rest isMark more
        obtain ⟨entry, inMembers, rfl⟩ := List.mem_map.mp member
        rw [List.append_assoc, List.cons_append]
        exact keysIH entry inMembers rfl (valuesIH entry inMembers isMark more)
      have inside := delimited_separated .objectClose ready rfl (.mark mark isMark more)
      simpa [tokens] using Delimited.mark .objectOpen rfl inside

end Draft

end Visa.Json
