import Visa.Proofs.Member
import Visa.Record.Reading

namespace Visa

/-! The record reader and the decoder of rules on the same object: where the decoder finds a rule,
the record reader finds the same members, and only a count that is too great for a record keeps it
from giving the same rule. -/

open Json (Decoder Draft Literal Token)
open Json.Token (Spelled)
open Record (Field Legible Members)

namespace Vocabulary

variable {α : Type} [Vocabulary α] {draft : Draft} {member : α}

theorem eq_token_of_read {text : String} (found : read text = .ok member) :
    text = token member := by
  unfold read at found
  cases known : ofToken? (α := α) text with
  | none => simp [known] at found
  | some other =>
      rw [known] at found
      cases found
      exact (ofToken?_eq_some_iff.mp known).symm

theorem eq_string_of_decoder (decoded : tokenDecoder draft = .ok member) :
    ∃ ending, draft = .string ⟨.ok (token member), ending⟩ := by
  obtain ⟨text, found, matched⟩ := Outcome.bind_eq_ok_iff.mp decoded
  have known : text = token member := by
    cases outcome : read (α := α) text with
    | error fault => simp [outcome] at matched
    | ok other =>
        rw [outcome] at matched
        cases matched
        exact eq_token_of_read outcome
  cases draft with
  | string literal =>
      obtain ⟨value, ending⟩ := literal
      cases value with
      | error flaw => contradiction
      | ok value =>
          cases found
          exact ⟨ending, by rw [known]⟩
  | _ => contradiction

theorem mapM_read_token (members : List α) : (members.map token).mapM read = .ok members := by
  rw [Outcome.mapM_eq_ok_iff, List.forall₂_map_left_iff, List.forall₂_same]
  exact fun member _ => read_token member

end Vocabulary

namespace Json.Decoder

theorem eq_natural_of_word {draft : Draft} {count : UInt32} (decoded : word draft = .ok count) :
    draft = .number (.natural count.toNat) := by
  cases draft with
  | number value =>
      cases value with
      | natural value =>
          simp only [word] at decoded
          split at decoded
          · rename_i small
            cases decoded
            rw [UInt32.toNat_ofNat_of_lt' small]
          · contradiction
      | _ => contradiction
  | _ => contradiction

theorem eq_bool_of_bool {draft : Draft} {value : Bool} (decoded : bool draft = .ok value) :
    draft = .bool value := by
  cases draft with
  | bool other =>
      cases decoded
      rfl
  | _ => contradiction

theorem eq_list_of_list {α : Type} {decoder : Decoder α} {draft : Draft} {values : List α}
    (decoded : list decoder draft = .ok values) :
    ∃ items, draft = .list items none ∧
      List.Forall₂ (fun item value => decoder item = .ok value) items values := by
  cases draft with
  | list items stop =>
      obtain ⟨found, read, more⟩ := Outcome.bind_eq_ok_iff.mp decoded
      obtain ⟨_, ended, same⟩ := Outcome.bind_eq_ok_iff.mp more
      cases same
      cases stop with
      | none => exact ⟨items, rfl, Outcome.mapM_eq_ok_iff.mp read⟩
      | some flaw => contradiction
  | _ => contradiction

end Json.Decoder

/-! ## Counts -/

namespace DayCount

theorem ofRecord?_toDigits (value : Nat) :
    ofRecord? (Nat.toDigits 10 value) = upTo recordLimit value := by
  have digits : ∀ letter ∈ Nat.toDigits 10 value, letter.isDigit := fun letter member =>
    Nat.isDigit_of_mem_toDigits (by decide) (by decide) member
  have read : digits? (Nat.toDigits 10 value) = some value := by
    have nonempty : Nat.toDigits 10 value ≠ [] := Nat.toDigits_ne_nil
    have allDigits : (Nat.toDigits 10 value).all Char.isDigit = true := List.all_eq_true.mpr digits
    rw [digits?, if_neg (by simp [nonempty, allDigits]), Nat.ofDigitChars_ten_toDigits]
  unfold ofRecord?
  split
  · rename_i text minus
    have sign := digits '-' (by rw [minus]; exact List.mem_cons_self)
    contradiction
  · rw [read, Option.bind_some]

end DayCount

namespace Rule

/-- The fault of the first count that is too great for a record. -/
def excess? (rule : Rule) : Option Fault :=
  if DayCount.recordLimit < rule.maxStay.toNat then
    some (.invalidCount Field.maxStay.name rule.maxStay.toNat.repr)
  else if DayCount.recordLimit < rule.processing.toNat then
    some (.invalidCount Field.processing.name rule.processing.toNat.repr)
  else none

theorem excess?_eq_none_iff {rule : Rule} :
    rule.excess? = none ↔
      rule.maxStay.toNat ≤ DayCount.recordLimit ∧ rule.processing.toNat ≤ DayCount.recordLimit := by
  unfold excess?
  split
  · simp only [reduceCtorEq, false_iff]
    omega
  · split
    · simp only [reduceCtorEq, false_iff]
      omega
    · simp only [true_iff]
      omega

/-- What a record with the members of a rule is read as. -/
def fromRecord (rule : Rule) : Except Fault Rule :=
  match rule.excess? with
  | none => .ok rule
  | some fault => .error fault

end Rule

namespace Record

variable {record : List Char} {members : List (Draft × Draft)} {field : Field} {rule : Rule}

theorem dayCount_toDigits (field : Field) (count : UInt32) :
    dayCount field (Nat.toDigits 10 count.toNat) =
      if DayCount.recordLimit < count.toNat then
        .error (.invalidCount field.name count.toNat.repr)
      else .ok count := by
  rw [dayCount, DayCount.ofRecord?_toDigits, DayCount.upTo]
  by_cases bound : count.toNat ≤ DayCount.recordLimit
  · rw [if_pos bound, if_neg (by omega)]
    simp
  · rw [if_neg bound, if_pos (by omega)]
    rfl

theorem isTrue_boolText (value : Bool) : isTrue (Token.boolText value) = value := by
  cases value <;> decide

def Members.ofRule (rule : Rule) : Members where
  destination := Vocabulary.token rule.destination
  passport := Vocabulary.token rule.passport
  purpose := Vocabulary.token rule.purpose
  maxStay := Nat.toDigits 10 rule.maxStay.toNat
  visaRequired := Token.boolText rule.visaRequired
  category := Vocabulary.token rule.category
  kind := Vocabulary.token rule.kind
  documents := rule.documents.map Vocabulary.token
  processing := Nat.toDigits 10 rule.processing.toNat

theorem Members.toRule_ofRule (rule : Rule) : (Members.ofRule rule).toRule = rule.fromRecord := by
  simp only [Members.toRule, Members.ofRule, Vocabulary.read_token, Vocabulary.mapM_read_token,
    dayCount_toDigits, isTrue_boolText, Rule.fromRecord, Rule.excess?]
  split
  · rfl
  · split <;> rfl

/-! ## Looking up what a member gives -/

section Lookup

variable (spelled : Spelled (Draft.object members none).tokens record) (legible : Legible members)

include spelled legible

theorem requiredString_of_gives {α : Type} [Vocabulary α] [Vocabulary.Capital α] {member : α}
    (gives : Rule.Parts.Gives members field tokenDecoder member) :
    requiredString field record = .ok (Vocabulary.token member) := by
  obtain ⟨value, rest, mark, letter, more, decoded, found, _, spelledValue⟩ :=
    exists_valueText_of_gives spelled legible gives
  obtain ⟨ending, rfl⟩ := Vocabulary.eq_string_of_decoder decoded
  have trimmed := (Vocabulary.Capital.capital member).trim
  rw [requiredString, string?_of_valueText found spelledValue, trimmed]
  simp [required, Except.map]

theorem count?_of_gives {count : UInt32}
    (gives : Rule.Parts.Gives members field Decoder.word count) :
    count? field record = some (Nat.toDigits 10 count.toNat) := by
  obtain ⟨value, rest, mark, letter, more, decoded, found, isMark, spelledValue⟩ :=
    exists_valueText_of_gives spelled legible gives
  rw [Decoder.eq_natural_of_word decoded] at spelledValue
  exact count?_of_valueText found spelledValue isMark

theorem boolean?_of_gives {truth : Bool}
    (gives : Rule.Parts.Gives members field Decoder.bool truth) :
    boolean? field record = some (Token.boolText truth) := by
  obtain ⟨value, rest, mark, letter, more, decoded, found, isMark, spelledValue⟩ :=
    exists_valueText_of_gives spelled legible gives
  rw [Decoder.eq_bool_of_bool decoded] at spelledValue
  exact boolean?_of_valueText found spelledValue isMark

theorem items_of_gives {α : Type} [Vocabulary α] [Vocabulary.Capital α] {listed : List α}
    (gives : Rule.Parts.Gives members field (Decoder.list tokenDecoder) listed) :
    items field record = (listed.map Vocabulary.token).map String.toList := by
  obtain ⟨value, rest, mark, letter, more, decoded, found, isMark, spelledValue⟩ :=
    exists_valueText_of_gives spelled legible gives
  obtain ⟨drafts, rfl, tokens⟩ := Decoder.eq_list_of_list decoded
  refine items_of_list found ?_ ?_ spelledValue
  · rw [List.forall₂_map_right_iff]
    exact tokens.imp fun _ _ read => Vocabulary.eq_string_of_decoder read
  · intro text inside
    obtain ⟨member, _, rfl⟩ := List.mem_map.mp inside
    have capital := Vocabulary.Capital.capital member
    exact ⟨capital.nonempty, capital.not_mem (by decide), capital.not_mem (by decide)⟩

/-- The record reader finds the members that the decoder finds. -/
theorem members_eq_ofRule
    (gives : ∀ field : Field, Rule.Parts.Gives members field field.decoder (rule.part field) ∨
      field = .documents ∧ Rule.Parts.Lacks members .documents ∧ rule.documents = []) :
    Record.members record = .ok (Members.ofRule rule) := by
  have given (field : Field) (other : field ≠ .documents) :
      Rule.Parts.Gives members field field.decoder (rule.part field) :=
    (gives field).resolve_right fun absent => other absent.1
  have destination : requiredString .destination record = .ok (Vocabulary.token rule.destination) :=
    requiredString_of_gives spelled legible (given .destination nofun)
  have passport : requiredString .passport record = .ok (Vocabulary.token rule.passport) :=
    requiredString_of_gives spelled legible (given .passport nofun)
  have purpose : requiredString .purpose record = .ok (Vocabulary.token rule.purpose) :=
    requiredString_of_gives spelled legible (given .purpose nofun)
  have category : requiredString .category record = .ok (Vocabulary.token rule.category) :=
    requiredString_of_gives spelled legible (given .category nofun)
  have kind : requiredString .kind record = .ok (Vocabulary.token rule.kind) :=
    requiredString_of_gives spelled legible (given .kind nofun)
  have maxStay : count? .maxStay record = some (Nat.toDigits 10 rule.maxStay.toNat) :=
    count?_of_gives spelled legible (given .maxStay nofun)
  have processing : count? .processing record = some (Nat.toDigits 10 rule.processing.toNat) :=
    count?_of_gives spelled legible (given .processing nofun)
  have visaRequired : boolean? .visaRequired record = some (Token.boolText rule.visaRequired) :=
    boolean?_of_gives spelled legible (given .visaRequired nofun)
  have documents : items .documents record =
      (rule.documents.map Vocabulary.token).map String.toList := by
    rcases gives .documents with listed | ⟨_, lacks, empty⟩
    · exact items_of_gives spelled legible listed
    · rw [items_of_valueText_eq_none (valueText_eq_none spelled legible lacks), empty]
      rfl
  simp only [Record.members, destination, passport, purpose, maxStay, visaRequired, category, kind,
    processing, documents, required, List.map_map]
  simp [bind, Except.bind, pure, Except.pure, Members.ofRule, Function.comp_def]

/-- The two readers agree on an object, up to the greater counts. -/
theorem read_eq_fromRecord (decoded : Rule.decoder (.object members none) = .ok rule) :
    Record.read record = rule.fromRecord := by
  obtain ⟨_, _, gives⟩ := Rule.gives_of_decoder decoded
  rw [Record.read, members_eq_ofRule spelled legible gives]
  exact Members.toRule_ofRule rule

end Lookup

end Record

end Visa
