import Visa.Proofs.Cut
import Visa.Proofs.Json.Tokens

namespace Visa

/-! The records of a JSON text. In a list of objects without further objects in them, and with no
brace in a literal, the braces of the text are those around the objects, so the scan for records
finds exactly these objects. -/

open Json (Draft Token)
open Json.Draft (memberTokens separated)
open Json.Token (AllSpace Lexeme Spelled)

namespace Json.Token

def hasBrace : Token → Bool
  | .string ⟨.ok text, _⟩ => text.toList.contains '{' || text.toList.contains '}'
  | _ => false

def isBraceless : Token → Bool
  | .objectOpen | .objectClose => false
  | token => !token.hasBrace

theorem Lexeme.brace_not_mem {token : Token} {lexeme : List Char} (form : Lexeme token lexeme)
    (braceless : token.isBraceless) : '{' ∉ lexeme ∧ '}' ∉ lexeme := by
  cases form with
  | @mark _ letter found =>
      cases token <;> cases found <;> first | contradiction | decide
  | null => decide
  | bool value => cases value <;> decide
  | number nonempty numerals decimal =>
      exact ⟨fun member => absurd (numerals '{' member) (by decide),
        fun member => absurd (numerals '}' member) (by decide)⟩
  | @string text plain =>
      simpa [isBraceless, hasBrace] using braceless

theorem Spelled.brace_not_mem {tokens : List Token} {text : List Char}
    (spelled : Spelled tokens text) (braceless : ∀ token ∈ tokens, token.isBraceless) :
    '{' ∉ text ∧ '}' ∉ text := by
  induction spelled with
  | nil => simp
  | @cons _ _ space _ _ blank form more ih =>
      obtain ⟨first, later⟩ := List.forall_mem_cons.mp braceless
      have noOpen : '{' ∉ space := blank.not_mem rfl
      have noClose : '}' ∉ space := blank.not_mem rfl
      have lexeme := form.brace_not_mem first
      have rest := ih later
      simp [noOpen, noClose, lexeme, rest]

end Json.Token

namespace Record

/-- An object without others in it is one record, up to the white space in front of it. -/
theorem exists_record {members : List (Draft × Draft)} {text : List Char}
    (spelled : Spelled (Draft.object members none).tokens text)
    (braceless : ∀ piece ∈ memberTokens members, ∀ token ∈ piece, token.isBraceless) :
    ∃ lead record, text = lead ++ record ∧ AllSpace lead ∧ Yields text [record] ∧
      Spelled (Draft.object members none).tokens record := by
  rw [Json.Draft.tokens] at spelled ⊢
  obtain ⟨lead, rest, rfl, blankLead, spelledRest⟩ := spelled.exists_of_mark rfl
  obtain ⟨inside, tail, rfl, spelledInside, spelledTail⟩ := spelledRest.exists_of_append
  obtain ⟨trail, behind, rfl, blankTrail, spelledBehind⟩ := spelledTail.exists_of_mark rfl
  cases spelledBehind
  have insideBraceless : ∀ token ∈ separated (memberTokens members), token.isBraceless := by
    intro token member
    rcases Json.Draft.mem_separated member with rfl | ⟨piece, inPieces, inPiece⟩
    · rfl
    · exact braceless piece inPieces token inPiece
  obtain ⟨noOpen, noClose⟩ := spelledInside.brace_not_mem insideBraceless
  have trailOpen : '{' ∉ trail := blankTrail.not_mem rfl
  have trailClose : '}' ∉ trail := blankTrail.not_mem rfl
  have closing := (Spelled.nil.cons_mark .objectClose rfl).space_append blankTrail (by simp)
  have noOpenInside : '{' ∉ inside ++ trail := by simp [noOpen, trailOpen]
  have noCloseInside : '}' ∉ inside ++ trail := by simp [noClose, trailClose]
  have object := yields_object noOpenInside noCloseInside
  refine ⟨lead, '{' :: (inside ++ trail) ++ ['}'], by simp, blankLead, ?_, ?_⟩
  · have yields := (yields_of_not_mem (blankLead.not_mem rfl)).append object
    simpa using yields
  · have spelledRecord := (spelledInside.append closing).cons_mark .objectOpen rfl
    simpa using spelledRecord

theorem yields_of_head {members : List (Draft × Draft)} {text : List Char}
    (spelled : Spelled (Draft.object members none).tokens text)
    (braceless : ∀ piece ∈ memberTokens members, ∀ token ∈ piece, token.isBraceless)
    (head : text.head? = some '{') : Yields text [text] := by
  obtain ⟨lead, record, rfl, blank, yields, _⟩ := exists_record spelled braceless
  cases lead with
  | nil => exact yields
  | cons letter lead =>
      cases head
      exact absurd List.mem_cons_self (blank.not_mem rfl)

/-- An object whose braces are the only ones in it. -/
def IsPlainObject (item : Draft) : Prop :=
  ∃ members, item = .object members none ∧
    ∀ piece ∈ memberTokens members, ∀ token ∈ piece, token.isBraceless

theorem exists_records {items : List Draft} {text : List Char} {more : List Token}
    (objects : ∀ item ∈ items, IsPlainObject item)
    (spelled : Spelled (separated (items.map Draft.tokens) ++ more) text) :
    ∃ inside rest records, text = inside ++ rest ∧ Yields inside records ∧
      List.Forall₂ (fun item record => Spelled item.tokens record) items records ∧
      Spelled more rest := by
  induction items generalizing text with
  | nil => exact ⟨[], text, [], rfl, rfl, .nil, spelled⟩
  | cons item items ih =>
      obtain ⟨⟨members, rfl, braceless⟩, objectsLater⟩ := List.forall_mem_cons.mp objects
      by_cases last : items = []
      · subst last
        rw [List.map_singleton, Json.Draft.separated_cons, List.flatMap_nil,
          List.append_nil] at spelled
        obtain ⟨object, rest, rfl, spelledObject, spelledRest⟩ := spelled.exists_of_append
        obtain ⟨_, record, _, _, yields, spelledRecord⟩ := exists_record spelledObject braceless
        exact ⟨object, rest, [record], rfl, yields, .cons spelledRecord .nil, spelledRest⟩
      · rw [List.map_cons, Json.Draft.separated_cons_of_ne_nil _ (by simpa using last),
          List.append_assoc] at spelled
        obtain ⟨object, next, rfl, spelledObject, spelledNext⟩ := spelled.exists_of_append
        obtain ⟨space, behind, rfl, blank, spelledBehind⟩ := spelledNext.exists_of_mark rfl
        obtain ⟨_, record, _, _, yields, spelledRecord⟩ := exists_record spelledObject braceless
        obtain ⟨inside, rest, records, rfl, yieldsLater, spelledLater, spelledRest⟩ :=
          ih objectsLater spelledBehind
        have free : '{' ∉ space := blank.not_mem rfl
        have comma : '{' ∉ space ++ [','] := by simp [free]
        refine ⟨object ++ ((space ++ [',']) ++ inside), rest, record :: records, by simp, ?_,
          .cons spelledRecord spelledLater, spelledRest⟩
        exact yields.append ((yields_of_not_mem comma).append yieldsLater)

theorem exists_records_of_list {items : List Draft} {text : List Char}
    (objects : ∀ item ∈ items, IsPlainObject item)
    (spelled : Spelled (Draft.list items none).tokens text) :
    ∃ records, Yields text records ∧
      List.Forall₂ (fun item record => Spelled item.tokens record) items records := by
  rw [Json.Draft.tokens, Json.Draft.itemTokens_eq_map] at spelled
  obtain ⟨lead, opened, rfl, blankLead, spelledItems⟩ := spelled.exists_of_mark rfl
  obtain ⟨inside, rest, records, rfl, yields, spelledRecords, spelledClose⟩ :=
    exists_records objects spelledItems
  have closing : '{' ∉ rest := (spelledClose.brace_not_mem (by decide)).1
  have free : '{' ∉ lead := blankLead.not_mem rfl
  have opening : '{' ∉ lead ++ ['['] := by simp [free]
  refine ⟨records, ?_, spelledRecords⟩
  have whole := (yields_of_not_mem opening).append (yields.append (yields_of_not_mem closing))
  simpa using whole

end Record

end Visa
