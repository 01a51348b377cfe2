import Visa.Proofs.Concatenation
import Visa.Proofs.Json.Machine
import Visa.Proofs.Tame

namespace Visa

/-! The record reader against the JSON reader: on a list of tame objects whose text has no escapes
and no braces in its literals, both give the same rules, in whatever order and layout the members
stand. -/

open Json (Decoder Draft Token)
open Record (Field Tame)
open Rule.Parts (Understood)

namespace Json

theorem eq_of_decodeText {α : Type} {decoder : Decoder α} {text : List Char} {value : α}
    (decoded : decodeText decoder text = .ok value) :
    ∃ draft, Draft.ofText text = (draft, false) ∧ decoder draft = .ok value := by
  unfold decodeText at decoded
  cases outcome : Draft.ofText text with
  | mk draft trailing =>
      rw [outcome] at decoded
      obtain ⟨found, read, ended⟩ := Outcome.bind_eq_ok_iff.mp decoded
      cases trailing with
      | false =>
          cases ended
          exact ⟨draft, rfl, read⟩
      | true => contradiction

end Json

namespace Record

def IsTameObject : Draft → Prop
  | .object members _ => Tame members
  | _ => False

instance : DecidablePred IsTameObject
  | .object members _ => inferInstanceAs (Decidable (Tame members))
  | .null | .bool _ | .number _ | .string _ | .list _ _ | .broken _ | .unfinished | .absent =>
      isFalse id

def IsTameList : Draft → Prop
  | .list items _ => ∀ item ∈ items, IsTameObject item
  | _ => False

instance : DecidablePred IsTameList
  | .list items _ => inferInstanceAs (Decidable (∀ item ∈ items, IsTameObject item))
  | .null | .bool _ | .number _ | .string _ | .object _ _ | .broken _ | .unfinished | .absent =>
      isFalse id

/-- A text in which quotes and braces mean what they seem to mean, with a list of tame objects. -/
structure IsTameText (text : List Char) : Prop where
  unescaped : '\\' ∉ text
  braceless : ∀ token ∈ Token.ofText text, token.hasBrace = false
  objects : IsTameList (Draft.ofText text).1

instance : DecidablePred IsTameText := fun _ =>
  decidable_of_iff (_ ∧ _ ∧ _)
    ⟨fun ⟨unescaped, braceless, objects⟩ => ⟨unescaped, braceless, objects⟩,
      fun ⟨unescaped, braceless, objects⟩ => ⟨unescaped, braceless, objects⟩⟩

theorem exists_members {item : Draft} {rule : Rule} (tame : IsTameObject item)
    (decoded : Rule.decoder item = .ok rule) :
    ∃ members, item = .object members none ∧ Tame members ∧
      ∀ member ∈ members, Understood member := by
  cases item with
  | object members stop =>
      obtain ⟨rfl, understood, _⟩ := Rule.gives_of_decoder decoded
      exact ⟨members, rfl, tame, understood⟩
  | _ => exact tame.elim

theorem sound_of_tame {members : List (Draft × Draft)} (tame : Tame members)
    (understood : ∀ member ∈ members, Understood member) : (Draft.object members none).Sound := by
  refine .object ?_ fun member inside => (tame.sound understood member inside).1
  intro member inside
  obtain ⟨name, ending, key, _⟩ := understood member inside
  rw [key]
  exact .string (.inr ⟨name, rfl⟩)

/-- The objects of a tame text are its records, and each is read as the rule it decodes to. -/
theorem exists_records_of_tame {text : List Char} {items : List Draft} {rules : List Rule}
    (tame : IsTameText text) (found : Draft.ofText text = (.list items none, false))
    (each : List.Forall₂ (fun item rule => Rule.decoder item = .ok rule) items rules) :
    ∃ records, Yields text records ∧
      List.Forall₂ (fun record rule => Record.read record = Rule.fromRecord rule)
        records rules := by
  have objects : ∀ item ∈ items, IsTameObject item := by
    have list := tame.objects
    rw [found] at list
    exact list
  have known : ∀ item ∈ items, ∃ members, item = .object members none ∧ Tame members ∧
      ∀ member ∈ members, Understood member := by
    intro item inside
    obtain ⟨rule, decoded⟩ := Outcome.exists_of_forall₂ each item inside
    exact exists_members (objects item inside) decoded
  have sound : (Draft.list items none).Sound := by
    apply Json.Draft.Sound.list
    intro item inside
    obtain ⟨members, rfl, tameMembers, understood⟩ := known item inside
    exact sound_of_tame tameMembers understood
  have same := Json.Draft.tokens_ofText found sound
  obtain ⟨body, space, rfl, spelled, blank⟩ :=
    Token.spelled_ofText tame.unescaped (by rw [same]; exact sound.of_mem_tokens)
  rw [same] at spelled
  have plain : ∀ item ∈ items, IsPlainObject item := by
    intro item inside
    obtain ⟨members, rfl, tameMembers, understood⟩ := known item inside
    apply tameMembers.isPlainObject understood
    intro token inTokens
    apply tame.braceless
    rw [same, Json.Draft.tokens, Json.Draft.itemTokens_eq_map]
    have inItems := Json.Draft.subset_separated (List.mem_map_of_mem inside) inTokens
    simp [inItems]
  obtain ⟨records, yields, spelledRecords⟩ := exists_records_of_list plain spelled
  refine ⟨records, ?_, ?_⟩
  · have ended := yields.append (yields_of_not_mem (blank.not_mem rfl))
    rwa [List.append_nil] at ended
  · refine Outcome.forall₂_of_common spelledRecords each ?_
    intro item inside record rule spelledRecord decoded
    obtain ⟨members, rfl, tameMembers, understood⟩ := known item inside
    exact read_eq_fromRecord spelledRecord (tameMembers.legible understood) decoded

end Record

namespace Report

/-- The account of a record with a count that is too great for it. -/
def excess? (entry : (List Char × Rule) × Nat) : Option Skipped :=
  entry.1.2.excess?.map fun reason => ⟨entry.2, reason, String.ofList (snippet entry.1.1)⟩

theorem skip?_eq_excess? {record : List Char} {rule : Rule} (index : Nat)
    (read : Record.read record = rule.fromRecord) :
    skip? (record, index) = excess? ((record, rule), index) := by
  rw [skip?, read, Rule.fromRecord, excess?]
  cases rule.excess? <;> rfl

theorem ofCut_of_fromRecord {records : List (List Char)} {rules : List Rule}
    (read : List.Forall₂ (fun record rule => Record.read record = Rule.fromRecord rule)
      records rules) :
    ofCut ⟨records, none⟩ =
      ⟨rules.filter fun rule => rule.excess?.isNone,
        (records.zip rules).zipIdx.filterMap excess?⟩ := by
  have skipped (count : Nat) : (records.zipIdx count).filterMap skip? =
      ((records.zip rules).zipIdx count).filterMap excess? := by
    induction read generalizing count with
    | nil => rfl
    | cons found _ ih =>
        rw [List.zip_cons_cons, List.zipIdx_cons, List.zipIdx_cons, List.filterMap_cons,
          List.filterMap_cons, skip?_eq_excess? count found, ih]
  have kept : (records.filterMap fun record => (Record.read record).toOption) =
      rules.filter fun rule => rule.excess?.isNone := by
    clear skipped
    induction read with
    | nil => rfl
    | @cons record rule _ _ found _ ih =>
        rw [List.filterMap_cons, ih, found, Rule.fromRecord]
        cases known : rule.excess? <;> simp [known, Except.toOption]
  simp [ofCut, skipped, kept]

theorem ofCut_of_bounded {records : List (List Char)} {rules : List Rule}
    (read : List.Forall₂ (fun record rule => Record.read record = Rule.fromRecord rule)
      records rules)
    (bounded : ∀ rule ∈ rules, rule.excess? = none) : ofCut ⟨records, none⟩ = ⟨rules, []⟩ := by
  have kept : (rules.filter fun rule => rule.excess?.isNone) = rules :=
    List.filter_eq_self.mpr fun rule inside => by rw [bounded rule inside]; rfl
  have nothing : (records.zip rules).zipIdx.filterMap excess? = [] := by
    apply List.filterMap_eq_nil_iff.mpr
    rintro ⟨⟨record, rule⟩, index⟩ inside
    have paired := List.of_mem_zip (List.fst_mem_of_mem_zipIdx inside)
    rw [excess?, bounded rule paired.2]
    rfl
  rw [ofCut_of_fromRecord read, kept, nothing]

/-- Where the JSON reader gives rules whose counts are not too great for a record, the record
reader gives the same rules and skips nothing. -/
theorem ofText_eq_of_decodeText {text : List Char} {rules : List Rule}
    (tame : Record.IsTameText text)
    (decoded : Json.decodeText (Decoder.list Rule.decoder) text = .ok rules)
    (bounded : ∀ rule ∈ rules, rule.maxStay.toNat ≤ DayCount.recordLimit ∧
      rule.processing.toNat ≤ DayCount.recordLimit) : ofText text = ⟨rules, []⟩ := by
  obtain ⟨draft, found, list⟩ := Json.eq_of_decodeText decoded
  obtain ⟨items, rfl, each⟩ := Decoder.eq_list_of_list list
  obtain ⟨records, yields, readRecords⟩ := Record.exists_records_of_tame tame found each
  rw [ofText, Record.ofText_eq_iff_yields.mpr yields]
  exact ofCut_of_bounded readRecords fun rule inside =>
    Rule.excess?_eq_none_iff.mpr (bounded rule inside)

theorem ofText_eq_of_decodeText_reordered :
    ofText ("[ \x7b\"fee\": -1.5e3, \"visaType\":\"WORK\",\n\"documents\" : [ \"PHOTO\" ,".toList ++
      "\"PASSPORT\"], \"destination\":\"JAPAN\",\"processingDays\": 10, ".toList ++
      "\"purpose\":\"WORK\", \"see\":\"form\", \"visaRequired\" :true\t,".toList ++
      "\"passportCountry\":\"INDIA\", \"maxStayDays\":2147483647,".toList ++
      "\"visaCategory\":\"E_VISA\" \x7d ]\n".toList) =
      ⟨[{ destination := .japan, passport := .india, purpose := .work, maxStay := 2147483647,
          visaRequired := true, category := .electronic, kind := .work,
          documents := [.photo, .passport], processing := 10 }], []⟩ :=
  ofText_eq_of_decodeText (by decide +kernel) (by decide +kernel) (by decide)

end Report

end Visa
