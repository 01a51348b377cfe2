import Visa.Proofs.Writing

namespace Visa

/-! The letters of written rules. A written record is a row of segments, one for each field: the
member itself and what parts it from the next one. -/

open Json.Value (newline)
open Record (Field)

/-! ## Splits -/

section Splits

variable {α β : Type} {left right : List α} {letter : α}

theorem split_append {first second : List α} (same : first ++ second = left ++ letter :: right) :
    (∃ rest, first = left ++ letter :: rest ∧ right = rest ++ second) ∨
      ∃ front, left = first ++ front ∧ second = front ++ letter :: right := by
  rcases List.append_eq_append_iff.mp same with ⟨front, behind, found⟩ | ⟨back, within, found⟩
  · exact .inr ⟨front, behind, found⟩
  · cases back with
    | nil => exact .inr ⟨[], by simpa using within.symm, found.symm⟩
    | cons first rest =>
        obtain ⟨rfl, rfl⟩ := List.cons.inj found
        exact .inl ⟨rest, within, rfl⟩

theorem subset_of_missing {text : List α} (split : text = left ++ letter :: right) :
    left ++ right ⊆ text := by
  rw [split]
  simp

theorem split_singleton {last : α} (same : [last] = left ++ letter :: right) :
    left = [] ∧ letter = last ∧ right = [] := by
  rcases List.cons_eq_append_iff.mp same with ⟨rfl, found⟩ | ⟨rest, rfl, later⟩
  · obtain ⟨rfl, rfl⟩ := List.cons.inj found
    exact ⟨rfl, rfl, rfl⟩
  · simp at later

theorem split_flatMap {items : List β} {write : β → List α}
    (same : items.flatMap write = left ++ letter :: right) :
    ∃ before item after front back, items = before ++ item :: after ∧
      write item = front ++ letter :: back ∧ left = before.flatMap write ++ front ∧
      right = back ++ after.flatMap write := by
  induction items generalizing left with
  | nil => simp at same
  | cons item rest ih =>
      rw [List.flatMap_cons] at same
      rcases split_append same with ⟨back, here, rfl⟩ | ⟨front, rfl, later⟩
      · exact ⟨[], item, rest, left, back, rfl, here, rfl, rfl⟩
      · obtain ⟨before, other, after, start, back, rfl, there, rfl, rfl⟩ := ih later
        exact ⟨item :: before, other, after, start, back, rfl, there, by simp, rfl⟩

end Splits

/-! ## Members -/

namespace Record.Field

/-- What follows a member: the last one is not followed by a comma. -/
def trailer : Field → List Char
  | .processing => newline 1
  | _ => ',' :: newline 2

theorem write_name (field : Field) : Json.Literal.write field.name.toList = field.key :=
  Json.Value.write_of_unescaped field.unescaped

end Record.Field

namespace Rule

variable (rule : Rule) (field : Field)

def member : List Char := field.key ++ ':' :: ' ' :: (rule.value field).write 2

def segment : List Char := rule.member field ++ field.trailer

def inside : List Char := newline 2 ++ Field.all.flatMap rule.segment

theorem write_toJson : rule.toJson.write 1 = '{' :: (rule.inside ++ ['}']) := by
  rw [toJson_eq]
  simp [Field.all, Json.Value.write, Json.Value.writeMembers, Field.write_name, inside, segment,
    member, Field.trailer]

/-! ## Letters of values -/

def quoted (document : Document) : List Char :=
  Text.quotedName (Vocabulary.token document).toList

/-- The items of a list between its brackets. -/
def listing : List Document → List Char
  | [] => []
  | [last] => newline 3 ++ quoted last ++ newline 2
  | first :: next :: rest => newline 3 ++ quoted first ++ ',' :: listing (next :: rest)

theorem write_token {α : Type} [Vocabulary α] [Vocabulary.Capital α] (member : α) (level : Nat) :
    (Json.Value.string (Vocabulary.token member)).write level =
      Text.quotedName (Vocabulary.token member).toList := by
  rw [Json.Value.write]
  exact Json.Value.write_of_unescaped (Vocabulary.Capital.capital member).unescaped

theorem write_bool (truth : Bool) (level : Nat) :
    (Json.Value.bool truth).write level = Json.Token.boolText truth := by
  cases truth <;> rfl

theorem listing_cons (first : Document) (rest : List Document) :
    listing (first :: rest) = newline 3 ++ quoted first ++
      (Json.Value.writeItems 3 (rest.map fun document => .string (Vocabulary.token document)) ++
        newline 2) := by
  induction rest generalizing first with
  | nil => rfl
  | cons next rest ih =>
      rw [listing, ih, List.map_cons, Json.Value.writeItems, write_token, quoted, quoted]
      simp

theorem write_tokens (documents : List Document) :
    (tokens documents).write 2 = '[' :: (listing documents ++ [']']) := by
  cases documents with
  | nil => rfl
  | cons first rest =>
      rw [tokens, List.map_cons, Json.Value.write, write_token, listing_cons, quoted]
      simp

/-- Letters that no value is written with; names of fields start with some of them. -/
def foreign : List Char := ['{', '}', ':', 'd', 'm', 'p', 'v']

variable {letter : Char}

theorem refused_of_mem {letters : List Char} (accepts : Char → Bool) (inside : letter ∈ letters)
    (refused : letters.all fun other => !accepts other) : accepts letter = false := by
  simpa using List.all_eq_true.mp refused letter inside

theorem ne_of_foreign {other : Char} (isForeign : letter ∈ foreign)
    (different : foreign.all fun letter => !(letter == other)) : letter ≠ other :=
  beq_eq_false_iff_ne.mp (refused_of_mem (· == other) isForeign different)

theorem not_mem_of_foreign {text : List Char} (isForeign : letter ∈ foreign)
    (absent : foreign.all fun letter => !text.contains letter) : letter ∉ text := by
  simpa using refused_of_mem text.contains isForeign absent

theorem not_mem_digits (other : letter.isDigit = false) (count : Nat) :
    letter ∉ Nat.toDigits 10 count := by
  intro inside
  have digit := Nat.isDigit_of_mem_toDigits (by decide) (by decide) inside
  exact Bool.false_ne_true (other.symm.trans digit)

theorem not_mem_quoted {α : Type} [Vocabulary α] [Vocabulary.Capital α]
    (isForeign : letter ∈ foreign) (member : α) :
    letter ∉ Text.quotedName (Vocabulary.token member).toList := by
  have quote : letter ≠ '"' := ne_of_foreign isForeign (by decide)
  have outside := (Vocabulary.Capital.capital member).not_mem
    (refused_of_mem _ isForeign (by decide))
  simp [Text.quotedName, quote, outside]

theorem not_mem_newline (isForeign : letter ∈ foreign) (level : Nat) : letter ∉ newline level := by
  have line : letter ≠ '\n' := ne_of_foreign isForeign (by decide)
  have space : letter ≠ ' ' := ne_of_foreign isForeign (by decide)
  simp [newline, line, space]

/-- The letters of lists, without their brackets. -/
def isListed (letter : Char) : Bool :=
  Vocabulary.isCapital letter || ['"', ',', '\n', ' '].contains letter

theorem isListed_of_mem_newline {level : Nat} (inside : letter ∈ newline level) :
    isListed letter := by
  rw [newline, List.mem_cons, List.mem_replicate] at inside
  rcases inside with rfl | ⟨_, rfl⟩ <;> rfl

theorem isListed_of_mem_quoted {document : Document} (inside : letter ∈ quoted document) :
    isListed letter := by
  rw [quoted, Text.quotedName, List.mem_cons, List.mem_append, List.mem_singleton] at inside
  rcases inside with rfl | inToken | rfl
  · rfl
  · have capital := (Vocabulary.Capital.capital document).isCapital_of_mem letter inToken
    rw [isListed, capital, Bool.true_or]
  · rfl

theorem isListed_of_mem_listing {documents : List Document} (inside : letter ∈ listing documents) :
    isListed letter := by
  induction documents with
  | nil => contradiction
  | cons first rest ih =>
      cases rest with
      | nil =>
          simp only [listing, List.mem_append] at inside
          rcases inside with (before | item) | behind
          · exact isListed_of_mem_newline before
          · exact isListed_of_mem_quoted item
          · exact isListed_of_mem_newline behind
      | cons next rest =>
          simp only [listing, List.mem_append, List.mem_cons] at inside
          rcases inside with (before | item) | rfl | later
          · exact isListed_of_mem_newline before
          · exact isListed_of_mem_quoted item
          · rfl
          · exact ih later

theorem not_mem_value (isForeign : letter ∈ foreign) : letter ∉ (rule.value field).write 2 := by
  cases field with
  | destination | passport | purpose | category | kind =>
      rw [value, write_token]
      exact not_mem_quoted isForeign _
  | maxStay | processing =>
      rw [value, Json.Value.write]
      exact not_mem_digits (refused_of_mem _ isForeign (by decide)) _
  | visaRequired =>
      rw [value]
      cases rule.visaRequired <;> exact not_mem_of_foreign isForeign (by decide)
  | documents =>
      have opened : letter ≠ '[' := ne_of_foreign isForeign (by decide)
      have closed : letter ≠ ']' := ne_of_foreign isForeign (by decide)
      have between : letter ∉ listing rule.documents := fun inside =>
        Bool.false_ne_true ((refused_of_mem isListed isForeign (by decide)).symm.trans
          (isListed_of_mem_listing inside))
      rw [value, write_tokens]
      simp [between, opened, closed]

theorem not_mem_inside (isForeign : letter ∈ foreign)
    (absent : ∀ field : Field, letter ∉ field.key ++ ':' :: ' ' :: field.trailer) :
    letter ∉ rule.inside := by
  intro inside
  rcases List.mem_append.mp inside with inLine | inSegments
  · exact not_mem_newline isForeign 2 inLine
  · obtain ⟨field, _, inSegment⟩ := List.mem_flatMap.mp inSegments
    have inValue := rule.not_mem_value field isForeign
    have elsewhere := absent field
    simp only [segment, member, List.mem_append, List.mem_cons] at inSegment elsewhere
    tauto

theorem open_not_mem_inside : '{' ∉ rule.inside := rule.not_mem_inside (by decide) (by decide)

theorem close_not_mem_inside : '}' ∉ rule.inside := rule.not_mem_inside (by decide) (by decide)

/-! ## Lists of records -/

def separator : List Char := ',' :: newline 1

/-- The text of a list in front of the record that follows these rules. -/
def opening (before : List Rule) : List Char :=
  '[' :: newline 1 ++ before.flatMap fun rule => rule.toJson.write 1 ++ separator

/-- The text of a list behind the record that these rules follow. -/
def closing (after : List Rule) : List Char :=
  (after.flatMap fun rule => separator ++ rule.toJson.write 1) ++ (newline 0 ++ [']'])

theorem writeItems_map (json : Rule → Json.Value) (rules : List Rule) :
    Json.Value.writeItems 1 (rules.map json) =
      rules.flatMap fun rule => separator ++ (json rule).write 1 := by
  induction rules with
  | nil => rfl
  | cons rule rest ih => rw [List.map_cons, Json.Value.writeItems, ih, List.flatMap_cons, separator]

theorem renderAll_cons (after : List Rule) :
    renderAll (rule :: after) = opening [] ++ (rule.toJson.write 1 ++ closing after) := by
  simp [renderAll, Json.Value.render, Json.Value.write, writeItems_map, opening, closing]

theorem separator_append_flatMap (rules : List Rule) (rest : List Char) :
    separator ++ ((rules.flatMap fun rule => rule.toJson.write 1 ++ separator) ++ rest) =
      (rules.flatMap fun rule => separator ++ rule.toJson.write 1) ++ (separator ++ rest) := by
  induction rules with
  | nil => rfl
  | cons rule later ih => simp only [List.flatMap_cons, List.append_assoc, ih]

theorem renderAll_append_cons (before after : List Rule) :
    renderAll (before ++ rule :: after) =
      opening before ++ (rule.toJson.write 1 ++ closing after) := by
  cases before with
  | nil => exact rule.renderAll_cons after
  | cons first rest =>
      rw [List.cons_append, renderAll_cons]
      simp only [opening, closing, List.flatMap_nil, List.flatMap_cons, List.flatMap_append,
        List.append_nil, List.append_assoc, separator_append_flatMap]

end Rule

end Visa
