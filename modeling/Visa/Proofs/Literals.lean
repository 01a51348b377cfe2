import Visa.Proofs.Tame

namespace Visa

/-! What the letters of a text tell of its tokens: which literal comes next, whether a number or a
word comes next, and whether there is an opening bracket at all. -/

open Json (Draft Literal Token)
open Json.Draft (separated)

/-! ## Drafts without flaws -/

namespace Json.Draft

theorem whole_of_membersFlaw? {key value : Draft} {rest : List (Draft × Draft)}
    (whole : membersFlaw? ((key, value) :: rest) = none) :
    (∃ text, key = .string text ∧ text.ending = none) ∧ value.flaw? = none ∧
      membersFlaw? rest = none := by
  cases key with
  | string text =>
      simp only [membersFlaw?, Option.or_eq_none_iff] at whole
      exact ⟨⟨text, rfl, whole.1.1⟩, whole.1.2, whole.2⟩
  | _ => simp [membersFlaw?] at whole

mutual

theorem sound_of_flaw? : (draft : Draft) → draft.flaw? = none → draft.Sound
  | .null, _ => .null
  | .bool value, _ => .bool value
  | .number value, _ => .number value
  | .string _, whole => .string (.inl whole)
  | .list items stop, whole => by
      rw [flaw?, Option.or_eq_none_iff] at whole
      obtain ⟨items, rfl⟩ := whole
      exact .list (sound_of_itemsFlaw? _ items)
  | .object members stop, whole => by
      rw [flaw?, Option.or_eq_none_iff] at whole
      obtain ⟨members, rfl⟩ := whole
      exact .object (fun member inside => (sound_of_membersFlaw? _ members member inside).2.1)
        fun member inside => (sound_of_membersFlaw? _ members member inside).2.2
  | .broken _, whole | .unfinished, whole | .absent, whole => nomatch whole

theorem sound_of_itemsFlaw? : (items : List Draft) → itemsFlaw? items = none →
    ∀ item ∈ items, item.Sound
  | [], _ => nofun
  | item :: rest, whole => by
      rw [itemsFlaw?, Option.or_eq_none_iff] at whole
      exact List.forall_mem_cons.mpr
        ⟨sound_of_flaw? item whole.1, sound_of_itemsFlaw? rest whole.2⟩

theorem sound_of_membersFlaw? : (members : List (Draft × Draft)) → membersFlaw? members = none →
    ∀ member ∈ members, (∃ text, member.1 = .string text) ∧ member.1.Sound ∧ member.2.Sound
  | [], _ => nofun
  | (key, value) :: rest, whole => by
      obtain ⟨⟨text, rfl, ended⟩, first, later⟩ := whole_of_membersFlaw? whole
      exact List.forall_mem_cons.mpr
        ⟨⟨⟨text, rfl⟩, .string (.inl ended), sound_of_flaw? value first⟩,
          sound_of_membersFlaw? rest later⟩

end

/-! ## Literals -/

theorem itemStrings_eq_flatMap (items : List Draft) :
    itemStrings items = items.flatMap strings := by
  induction items with
  | nil => rfl
  | cons item rest ih => rw [itemStrings, ih, List.flatMap_cons]

end Json.Draft

namespace Json.Token

def literal? : Token → Option Literal
  | .string text => some text
  | _ => none

def literals (tokens : List Token) : List Literal := tokens.filterMap literal?

theorem literals_separated (pieces : List (List Token)) :
    literals (separated pieces) = pieces.flatMap literals := by
  induction pieces with
  | nil => rfl
  | cons piece later ih =>
      by_cases last : later = []
      · subst last
        simp [separated]
      · rw [Draft.separated_cons_of_ne_nil piece last, literals, List.filterMap_append,
          List.filterMap_cons_none rfl, List.flatMap_cons, ← ih]
        rfl

end Json.Token

namespace Json.Draft

open Token (literals literals_separated)

/-- A value without objects has its literals in the places of values. -/
theorem Sound.literals {draft : Draft} (sound : draft.Sound)
    (flat : Token.objectOpen ∉ draft.tokens) : literals draft.tokens = draft.strings := by
  induction sound with
  | null | bool | number | string => rfl
  | @list items sound ih =>
      have each : ∀ item ∈ items, Token.literals item.tokens = item.strings := by
        intro item inside
        refine ih item inside fun opened => flat ?_
        have piece : item.tokens ∈ items.map tokens := List.mem_map_of_mem inside
        rw [tokens, itemTokens_eq_map]
        simp [subset_separated piece opened]
      rw [tokens, itemTokens_eq_map, strings, itemStrings_eq_flatMap, Token.literals,
        List.filterMap_cons_none rfl, List.filterMap_append]
      change Token.literals (separated (items.map tokens)) ++ [] = _
      rw [literals_separated, List.append_nil, List.flatMap_map]
      exact List.flatMap_congr each
  | object => exact absurd List.mem_cons_self flat

end Json.Draft

/-! ## Texts -/

namespace Json

def Literal.text? (literal : Literal) : Option String := literal.value.toOption

namespace Token

variable {token : Token} {tokens : List Token} {text tail : List Char}

theorem literal?_eq_none (notString : ∀ text, token ≠ .string text) : token.literal? = none := by
  cases token with
  | string text => exact absurd rfl (notString text)
  | _ => rfl

theorem literals_cons (notString : ∀ text, token ≠ .string text) :
    literals (token :: tokens) = literals tokens :=
  List.filterMap_cons_none (literal?_eq_none notString)

theorem Spelled.exists_of_mem_literals (spelled : Spelled tokens text) :
    ∀ literal ∈ literals tokens, ∃ name, literal = ⟨.ok name, none⟩ := by
  induction spelled with
  | nil => nofun
  | cons blank form more ih =>
      cases form with
      | string plain => exact List.forall_mem_cons.mpr ⟨⟨_, rfl⟩, ih⟩
      | mark found => rwa [literals_cons (ne_string_of_mark found)]
      | null | bool | number => exact ih

/-- The text between the next two quotes is the first literal of the text. -/
theorem Spelled.between_quotes (spelled : Spelled tokens text) (quoteFree : '"' ∉ tail) :
    (Text.after? ['"'] (text ++ tail)).bind (Text.before? ['"']) =
      ((literals tokens).head?.bind Literal.text?).map String.toList := by
  induction spelled with
  | nil => rw [List.nil_append, Text.after?_mark_eq_none quoteFree]; rfl
  | @cons token tokens space lexeme text blank form more ih =>
      by_cases isString : ∃ literal, token = .string literal
      · obtain ⟨literal, rfl⟩ := isString
        cases form with
        | mark found => contradiction
        | @string inside plain =>
            have opened :
                Text.after? ['"'] (space ++ '"' :: (inside ++ '"' :: (text ++ tail))) = _ :=
              Text.after?_mark _ (blank.not_mem rfl)
            have order : space ++ ('"' :: (inside ++ ['"']) ++ text) ++ tail =
                space ++ '"' :: (inside ++ '"' :: (text ++ tail)) := by simp
            rw [order, opened, Option.bind_some, Text.before?_mark _ plain]
            simp [literals, literal?, Literal.text?, Except.toOption]
      · have notString : ∀ literal, token ≠ .string literal := fun literal same =>
          isString ⟨literal, same⟩
        have free : '"' ∉ space ++ lexeme := by
          have spaceFree : '"' ∉ space := blank.not_mem rfl
          simp [form.quote_not_mem notString, spaceFree]
        have order : space ++ (lexeme ++ text) ++ tail = (space ++ lexeme) ++ (text ++ tail) := by
          simp
        rw [order, Text.after?_append_of_not_mem _ free, ih, literals_cons notString]

/-! ## First letters -/

def isNumber : Token → Bool
  | .number _ => true
  | _ => false

def isWord : Token → Bool
  | .null | .bool _ => true
  | _ => false

theorem classes_of_isDigit {letter : Char} (digit : letter.isDigit) :
    Text.isBlank letter = false ∧ Record.isCountLetter letter = true ∧
      Text.isAlphabetic letter = false := by
  have every : ∀ value < 10, Text.isBlank (Nat.digitChar value) = false ∧
      Record.isCountLetter (Nat.digitChar value) = true ∧
      Text.isAlphabetic (Nat.digitChar value) = false := by decide
  obtain ⟨same, small⟩ := Number.digitChar_sub digit
  rw [← same]
  exact every _ small

/-- The first letter of a token tells numbers and words from all others. -/
theorem Lexeme.exists_first {lexeme : List Char} (form : Lexeme token lexeme) :
    ∃ first rest, lexeme = first :: rest ∧ Text.isBlank first = false ∧
      Record.isCountLetter first = token.isNumber ∧ Text.isAlphabetic first = token.isWord := by
  cases form with
  | mark found =>
      refine ⟨_, [], rfl, ?_⟩
      cases token <;> cases found <;> decide
  | null => exact ⟨_, _, rfl, by decide⟩
  | bool value => cases value <;> exact ⟨_, _, rfl, by decide⟩
  | number nonempty numerals decimal started =>
      obtain ⟨first, rest, rfl⟩ := List.exists_cons_of_ne_nil nonempty
      refine ⟨first, rest, rfl, ?_⟩
      rcases started first rfl with digit | rfl
      · exact classes_of_isDigit digit
      · have classes : Text.isBlank '-' = false ∧ Record.isCountLetter '-' = true ∧
            Text.isAlphabetic '-' = false := by decide
        exact classes
  | string plain =>
      have classes : Text.isBlank '"' = false ∧ Record.isCountLetter '"' = false ∧
          Text.isAlphabetic '"' = false := by decide
      exact ⟨_, _, rfl, classes⟩

/-! ## Brackets -/

def hasBracket : Token → Bool
  | .listOpen => true
  | .string ⟨.ok text, _⟩ => text.toList.contains '['
  | _ => false

theorem Lexeme.bracket_not_mem {lexeme : List Char} (form : Lexeme token lexeme)
    (free : token.hasBracket = false) : '[' ∉ lexeme := by
  cases form with
  | mark found => cases token <;> cases found <;> first | contradiction | decide
  | null => decide
  | bool value => cases value <;> decide
  | number nonempty numerals => exact fun member => absurd (numerals '[' member) (by decide)
  | string plain => simpa [hasBracket] using free

theorem Spelled.bracket_not_mem (spelled : Spelled tokens text)
    (free : ∀ token ∈ tokens, token.hasBracket = false) : '[' ∉ text := by
  induction spelled with
  | nil => exact List.not_mem_nil
  | @cons _ _ space _ _ blank form more ih =>
      obtain ⟨first, later⟩ := List.forall_mem_cons.mp free
      have spaceFree : '[' ∉ space := blank.not_mem rfl
      simp [spaceFree, form.bracket_not_mem first, ih later]

end Token

end Json

namespace Json.Draft

def isNumber : Draft → Bool
  | .number _ => true
  | _ => false

def isWord : Draft → Bool
  | .null | .bool _ => true
  | _ => false

theorem Sound.exists_token {draft : Draft} (sound : draft.Sound) :
    ∃ token rest, draft.tokens = token :: rest ∧ token.isNumber = draft.isNumber ∧
      token.isWord = draft.isWord := by
  cases sound <;> exact ⟨_, _, rfl, rfl, rfl⟩

end Json.Draft

end Visa
