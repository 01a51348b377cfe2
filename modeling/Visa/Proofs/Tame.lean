import Visa.Proofs.Braces
import Visa.Proofs.Reading

namespace Visa

/-! Objects that a reader without a parser can be trusted with: what stands in them as a value is
never the name of a field, and members that belong to no field are scalars. -/

open Json (Decoder Draft Literal Token)
open Json.Draft (memberTokens)
open Json.Token (plain)
open Record (Field Legible)
open Rule.Parts (Understood)

namespace Json.Draft

def isScalar : Draft → Bool
  | .null | .bool _ | .number _ | .string _ => true
  | _ => false

mutual

/-- The literals in the places of values; keys are none of them. -/
def strings : Draft → List Literal
  | .string text => [text]
  | .list items _ => itemStrings items
  | .object members _ => memberStrings members
  | _ => []

def itemStrings : List Draft → List Literal
  | [] => []
  | item :: rest => strings item ++ itemStrings rest

def memberStrings : List (Draft × Draft) → List Literal
  | [] => []
  | (_, value) :: rest => strings value ++ memberStrings rest

end

variable {value : Draft} {token : Token}

theorem sound_of_isScalar (scalar : value.isScalar) (whole : value.flaw? = none) : value.Sound := by
  cases value with
  | null => exact .null
  | bool value => exact .bool value
  | number value => exact .number value
  | string text => exact .string (.inl whole)
  | _ => contradiction

inductive Row : Draft → Prop
  | scalar {value : Draft} (scalar : value.isScalar) : Row value
  | list {items : List Draft} (scalars : ∀ item ∈ items, item.isScalar) : Row (.list items none)

/-- A token of a value that holds no objects: a literal in it is in the place of a value. -/
def Within (strings : List Literal) : Token → Prop
  | .objectOpen | .objectClose => False
  | .string text => text ∈ strings
  | _ => True

theorem within_of_isScalar (scalar : value.isScalar) :
    ∀ token ∈ value.tokens, Within value.strings token := by
  intro token member
  cases value with
  | null | bool | number | string =>
      cases List.mem_singleton.mp member
      simp [Within, strings]
  | _ => contradiction

theorem mem_itemStrings_iff {items : List Draft} {text : Literal} :
    text ∈ itemStrings items ↔ ∃ item ∈ items, text ∈ item.strings := by
  induction items with
  | nil => simp [itemStrings]
  | cons first rest ih => simp [itemStrings, ih]

theorem Row.within (row : Row value) : ∀ token ∈ value.tokens, Within value.strings token := by
  cases row with
  | scalar scalar => exact within_of_isScalar scalar
  | @list items scalars =>
      intro token member
      simp only [tokens, itemTokens_eq_map, List.mem_cons, List.mem_append, List.not_mem_nil,
        or_false] at member
      rcases member with rfl | inside | rfl
      · trivial
      · rcases mem_separated inside with rfl | ⟨piece, inPieces, inPiece⟩
        · trivial
        · obtain ⟨item, inItems, rfl⟩ := List.mem_map.mp inPieces
          have inItem := within_of_isScalar (scalars item inItems) token inPiece
          cases token with
          | string text =>
              rw [Within, strings]
              exact mem_itemStrings_iff.mpr ⟨item, inItems, inItem⟩
          | _ => exact inItem
      · trivial

end Json.Draft

open Json.Draft (Row Within)

namespace Record

theorem sound_of_tokenDecoder {α : Type} [Vocabulary α] {value : Draft} {member : α}
    (decoded : tokenDecoder value = .ok member) : value.Sound ∧ value.isScalar := by
  obtain ⟨ending, rfl⟩ := Vocabulary.eq_string_of_decoder decoded
  exact ⟨.string (.inr ⟨_, rfl⟩), rfl⟩

theorem Field.sound_of_decoder {field : Field} {value : Draft} {content : field.Content}
    (decoded : field.decoder value = .ok content) : value.Sound ∧ Row value := by
  have ofToken {α : Type} [Vocabulary α] {member : α} (decoded : tokenDecoder value = .ok member) :
      value.Sound ∧ Row value :=
    ⟨(sound_of_tokenDecoder decoded).1, .scalar (sound_of_tokenDecoder decoded).2⟩
  have ofWord {count : UInt32} (decoded : Decoder.word value = .ok count) :
      value.Sound ∧ Row value := by
    rw [Decoder.eq_natural_of_word decoded]
    exact ⟨.number _, .scalar rfl⟩
  cases field with
  | destination => exact ofToken (α := Country) decoded
  | passport => exact ofToken (α := Country) decoded
  | purpose => exact ofToken (α := Purpose) decoded
  | category => exact ofToken (α := Category) decoded
  | kind => exact ofToken (α := Kind) decoded
  | maxStay => exact ofWord decoded
  | processing => exact ofWord decoded
  | visaRequired =>
      rw [Decoder.eq_bool_of_bool decoded]
      exact ⟨.bool _, .scalar rfl⟩
  | documents =>
      obtain ⟨items, rfl, read⟩ := Decoder.eq_list_of_list decoded
      have sound : ∀ item ∈ items, item.Sound ∧ item.isScalar := by
        intro item inside
        obtain ⟨document, known⟩ := Outcome.exists_of_forall₂ read item inside
        exact sound_of_tokenDecoder known
      exact ⟨.list fun item inside => (sound item inside).1,
        .list fun item inside => (sound item inside).2⟩

/-- The members of an object on which the two readers of rules can be compared. -/
structure Tame (members : List (Draft × Draft)) : Prop where
  unnamed : ∀ member ∈ members, ∀ text ∈ member.2.strings, ∀ field : Field,
    text.value ≠ .ok field.name
  scalar : ∀ member ∈ members, (∀ field : Field, ¬field.Names member.1) → member.2.isScalar

instance : DecidablePred Tame := fun _ =>
  decidable_of_iff (_ ∧ _) ⟨fun ⟨unnamed, scalar⟩ => ⟨unnamed, scalar⟩,
    fun ⟨unnamed, scalar⟩ => ⟨unnamed, scalar⟩⟩

namespace Tame

variable {members : List (Draft × Draft)}

theorem sound (tame : Tame members) (understood : ∀ member ∈ members, Understood member) :
    ∀ member ∈ members, member.2.Sound ∧ Row member.2 := by
  intro member inside
  obtain ⟨name, ending, key, ⟨unknown, whole⟩ | ⟨field, content, _, decoded⟩⟩ :=
    understood member inside
  · have scalar : member.2.isScalar := by
      apply tame.scalar member inside
      rintro field ⟨_, same⟩
      cases key.symm.trans same
      exact unknown field rfl
    exact ⟨Json.Draft.sound_of_isScalar scalar whole, .scalar scalar⟩
  · exact Field.sound_of_decoder decoded

theorem legible (tame : Tame members) (understood : ∀ member ∈ members, Understood member) :
    Legible members where
  keys member inside := by
    obtain ⟨name, ending, key, _⟩ := understood member inside
    exact ⟨name, ending, key⟩
  values member inside := (tame.sound understood member inside).1
  foreign member inside field inTokens := by
    have inStrings := (tame.sound understood member inside).2.within _ inTokens
    apply tame.unnamed member inside _ inStrings field
    rw [String.ofList_toList]

theorem isPlainObject (tame : Tame members) (understood : ∀ member ∈ members, Understood member)
    (braceless : ∀ token ∈ (Draft.object members none).tokens, token.hasBrace = false) :
    IsPlainObject (.object members none) := by
  refine ⟨members, rfl, fun piece inPieces token inPiece => ?_⟩
  have free : token.hasBrace = false := by
    apply braceless
    rw [Json.Draft.tokens]
    simp [Json.Draft.subset_separated inPieces inPiece]
  rw [Json.Draft.memberTokens_eq_map] at inPieces
  obtain ⟨member, inside, rfl⟩ := List.mem_map.mp inPieces
  obtain ⟨name, ending, key, _⟩ := understood member inside
  simp only [key, Json.Draft.tokens, List.mem_append, List.mem_cons, List.not_mem_nil,
    or_false] at inPiece
  rcases inPiece with rfl | rfl | inValue
  · simpa [Token.isBraceless] using free
  · rfl
  · have within := (tame.sound understood member inside).2.within token inValue
    cases token with
    | objectOpen => exact within.elim
    | objectClose => exact within.elim
    | _ => simpa [Token.isBraceless] using free

end Tame

end Record

end Visa
