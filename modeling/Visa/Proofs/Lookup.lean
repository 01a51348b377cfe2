import Visa.Proofs.Json.Passing
import Visa.Proofs.Parts
import Visa.Proofs.Trim

namespace Visa.Record

/-! Where the members of a record are found. In the text of an object a search for the name of a
field goes over everything up to the first member of that name, so what it takes for the value is
the text of that member's value. -/

open Json (Decoder Draft Literal Token)
open Json.Draft (continued memberTokens separated)
open Json.Token (AllSpace Delimited Lexeme Spelled plain)

variable {field : Field} {record rest : List Char} {members before after : List (Draft × Draft)}
  {key value : Draft} {mark : Token} {letter : Char} {more : List Token}

/-! ## Names -/

theorem Field.quote_not_mem (field : Field) : '"' ∉ field.name.toList := by
  cases field <;> decide

theorem Field.mark_not_mem (field : Field) : ∀ mark ∈ Token.marks, mark ∉ field.name.toList := by
  have every : (Token.marks.all fun mark => !field.name.toList.contains mark) := by
    cases field <;> decide
  simpa using every

theorem Field.key_eq (field : Field) : field.key = Text.quotedName field.name.toList := rfl

/-! ## Values -/

/-- Members whose keys are texts and whose values are whole, none of them a field's name. -/
structure Legible (members : List (Draft × Draft)) : Prop where
  keys : ∀ member ∈ members, ∃ name ending, member.1 = .string ⟨.ok name, ending⟩
  values : ∀ member ∈ members, member.2.Sound
  foreign : ∀ member ∈ members, ∀ field : Field, plain field.name.toList ∉ member.2.tokens

theorem Legible.of_append (legible : Legible (before ++ after)) : Legible before where
  keys member inside := legible.keys member (List.mem_append_left _ inside)
  values member inside := legible.values member (List.mem_append_left _ inside)
  foreign member inside := legible.foreign member (List.mem_append_left _ inside)

theorem Legible.ready (legible : Legible members) : Json.Draft.Ready (memberTokens members) := by
  rw [Json.Draft.memberTokens_eq_map]
  intro piece member mark letter rest isMark more
  obtain ⟨entry, inMembers, rfl⟩ := List.mem_map.mp member
  obtain ⟨name, ending, key⟩ := legible.keys entry inMembers
  have value := (legible.values entry inMembers).delimited isMark more
  rw [List.append_assoc, List.cons_append, key]
  exact .string rfl value

theorem Legible.absent (legible : Legible members) (unnamed : Rule.Parts.Lacks members field) :
    ∀ piece ∈ memberTokens members, plain field.name.toList ∉ piece := by
  rw [Json.Draft.memberTokens_eq_map]
  intro piece member inPiece
  obtain ⟨entry, inMembers, rfl⟩ := List.mem_map.mp member
  obtain ⟨name, ending, key⟩ := legible.keys entry inMembers
  simp only [key, Json.Draft.tokens, List.mem_append, List.mem_cons, List.not_mem_nil,
    or_false] at inPiece
  rcases inPiece with inKey | isColon | inValue
  · refine unnamed entry inMembers ⟨ending, ?_⟩
    rw [plain, String.ofList_toList] at inKey
    cases inKey
    exact key
  · contradiction
  · exact legible.foreign entry inMembers field inValue

theorem plain_ne_comma (text : List Char) : plain text ≠ .comma := nofun

theorem absent_of_pieces {token : Token} {pieces : List (List Token)} (notComma : token ≠ .comma)
    (absent : ∀ piece ∈ pieces, token ∉ piece) : token ∉ continued pieces := by
  intro member
  obtain ⟨piece, inPieces, inPiece⟩ := List.mem_flatMap.mp member
  rcases List.mem_append.mp inPiece with here | comma
  · exact absent piece inPieces here
  · exact notComma (List.mem_singleton.mp comma)

/-- The tokens of an object up to the colon of a member. -/
def tokensBefore (before : List (Draft × Draft)) (key : Draft) : List Token :=
  .objectOpen :: (continued (memberTokens before) ++ (key.tokens ++ [.colon]))

/-- The tokens of an object behind the value of a member. -/
def tokensAfter (after : List (Draft × Draft)) : List Token :=
  ((memberTokens after).flatMap fun piece => .comma :: piece) ++ [.objectClose]

theorem tokens_object (before : List (Draft × Draft)) (key value : Draft)
    (after : List (Draft × Draft)) :
    (Draft.object (before ++ (key, value) :: after) none).tokens =
      tokensBefore before key ++ (value.tokens ++ tokensAfter after) := by
  have split : memberTokens (before ++ (key, value) :: after) =
      memberTokens before ++ (key.tokens ++ .colon :: value.tokens) :: memberTokens after := by
    simp [Json.Draft.memberTokens_eq_map]
  rw [Json.Draft.tokens, split, Json.Draft.separated_append_cons, Json.Draft.separated_cons,
    tokensBefore, tokensAfter]
  simp

/-- The value of the first member of a name starts behind the colon of that member, whatever stands
behind the object. -/
theorem exists_lead
    (spelled : Spelled (Draft.object (before ++ (key, value) :: after) none).tokens record)
    (legible : Legible before) (unnamed : Rule.Parts.Lacks before field) (names : field.Names key) :
    ∃ lead rest, record = lead ++ rest ∧ Spelled (tokensBefore before key) lead ∧
      Spelled (value.tokens ++ tokensAfter after) rest ∧
      ∀ tail, valueText field (record ++ tail) = some (rest ++ tail) := by
  rw [tokens_object] at spelled
  obtain ⟨lead, rest, rfl, spelledLead, spelledRest⟩ := spelled.exists_of_append
  refine ⟨lead, rest, rfl, spelledLead, spelledRest, fun tail => ?_⟩
  obtain ⟨ending, rfl⟩ := names
  rw [tokensBefore, ← List.cons_append] at spelledLead
  obtain ⟨front, label, rfl, spelledFront, spelledLabel⟩ := spelledLead.exists_of_append
  obtain ⟨space, afterKey, rfl, _, blank, spelledColon⟩ := spelledLabel.exists_of_text
  obtain ⟨gap, nothing, rfl, gapBlank, spelledNothing⟩ := spelledColon.exists_of_mark rfl
  cases spelledNothing.eq_nil
  have passed : Text.PassedBy (Text.quotedName field.name.toList) front := by
    refine spelledFront.passedBy (.mark _ rfl (Json.Draft.delimited_continued legible.ready))
      field.quote_not_mem field.mark_not_mem ?_
    intro member
    rcases List.mem_cons.mp member with opening | inside
    · contradiction
    · exact absent_of_pieces (plain_ne_comma _) (legible.absent unnamed) inside
  have order :
      front ++ (space ++ '"' :: (field.name.toList ++ '"' :: (gap ++ [':']))) ++ rest ++ tail =
        front ++ (space ++ (Text.quotedName field.name.toList ++
          (gap ++ ':' :: (rest ++ tail)))) := by
    simp [Text.quotedName]
  rw [order, valueText, Field.key_eq, passed, Text.passedBy_of_not_mem _ (blank.not_mem rfl),
    Text.quotedName, Text.after?_append]
  exact Text.after?_mark (rest ++ tail) (gapBlank.not_mem rfl)

theorem exists_mark (after : List (Draft × Draft)) :
    ∃ mark letter more, tokensAfter after = mark :: more ∧ mark.mark? = some letter := by
  unfold tokensAfter
  cases memberTokens after with
  | nil => exact ⟨.objectClose, '}', [], rfl, rfl⟩
  | cons piece rest => exact ⟨.comma, ',', _, rfl, rfl⟩

theorem exists_valueText
    (spelled : Spelled (Draft.object (before ++ (key, value) :: after) none).tokens record)
    (legible : Legible before) (unnamed : Rule.Parts.Lacks before field) (names : field.Names key) :
    ∃ rest mark letter more, valueText field record = some rest ∧ mark.mark? = some letter ∧
      Spelled (value.tokens ++ mark :: more) rest := by
  obtain ⟨lead, rest, _, _, spelledRest, found⟩ := exists_lead spelled legible unnamed names
  obtain ⟨mark, letter, more, behind, isMark⟩ := exists_mark after
  rw [behind] at spelledRest
  have here := found []
  rw [List.append_nil, List.append_nil] at here
  exact ⟨rest, mark, letter, more, here, isMark, spelledRest⟩

theorem exists_valueText_of_gives {α : Type} {decoder : Decoder α} {content : α}
    (spelled : Spelled (Draft.object members none).tokens record) (legible : Legible members)
    (gives : Rule.Parts.Gives members field decoder content) :
    ∃ value rest mark letter more, decoder value = .ok content ∧
      valueText field record = some rest ∧ mark.mark? = some letter ∧
      Spelled (value.tokens ++ mark :: more) rest := by
  obtain ⟨before, key, value, after, rfl, unnamed, names, decoded⟩ := gives
  obtain ⟨rest, mark, letter, more, found, isMark, spelledValue⟩ :=
    exists_valueText spelled legible.of_append unnamed names
  exact ⟨value, rest, mark, letter, more, decoded, found, isMark, spelledValue⟩

/-- Without a member of its name a field has no value, whatever stands behind the object, as long
as no quote does. -/
theorem valueText_append_eq_none (spelled : Spelled (Draft.object members none).tokens record)
    (legible : Legible members) (unnamed : Rule.Parts.Lacks members field) {tail : List Char}
    (quoteFree : '"' ∉ tail) : valueText field (record ++ tail) = none := by
  have delimited : Delimited (Draft.object members none).tokens := by
    have inside := Json.Draft.delimited_separated .objectClose legible.ready rfl .nil
    exact .mark .objectOpen rfl inside
  have passed : Text.PassedBy field.key record := by
    apply spelled.passedBy delimited field.quote_not_mem field.mark_not_mem
    intro member
    simp only [Json.Draft.tokens, List.mem_cons, List.mem_append, List.not_mem_nil,
      or_false] at member
    rcases member with opening | inside | closing
    · contradiction
    · rcases Json.Draft.mem_separated inside with comma | ⟨piece, inPieces, inPiece⟩
      · contradiction
      · exact legible.absent unnamed piece inPieces inPiece
    · contradiction
  have nothing := Text.passedBy_of_not_mem field.name.toList quoteFree []
  rw [List.append_nil, ← Field.key_eq] at nothing
  rw [valueText, passed, nothing]
  rfl

theorem valueText_eq_none (spelled : Spelled (Draft.object members none).tokens record)
    (legible : Legible members) (unnamed : Rule.Parts.Lacks members field) :
    valueText field record = none := by
  have missing := valueText_append_eq_none spelled legible unnamed List.not_mem_nil
  rwa [List.append_nil] at missing

end Visa.Record
