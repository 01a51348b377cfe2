import Visa.Exchange.Writing
import Visa.Proofs.Json.Rendering
import Visa.Proofs.Tame

namespace Visa

/-! Rules as they are written: a written rule is one record with tame members, it decodes to the
rule, and so the record reader finds the rule in it. -/

open Json (Decoder Draft Literal Token Value)
open Json.Token (Spelled)
open Json.Value (Plain Unescaped)
open Record (Field IsPlainObject Tame Yields)
open Vocabulary (IsCapital)

theorem Vocabulary.IsCapital.unescaped {text : String} (capital : IsCapital text) :
    Unescaped text := fun letter inside =>
  escaped_of_isCapital (capital.isCapital_of_mem letter inside)

theorem Record.Field.unescaped (field : Field) : Unescaped field.name := by
  have every : (field.name.toList.all fun letter => Json.Literal.escaped letter == [letter]) := by
    cases field <;> decide
  exact fun letter inside => beq_iff_eq.mp (List.all_eq_true.mp every letter inside)

namespace Rule

variable (rule : Rule) (field : Field)

def value : Field → Value
  | .destination => .string (Vocabulary.token rule.destination)
  | .passport => .string (Vocabulary.token rule.passport)
  | .purpose => .string (Vocabulary.token rule.purpose)
  | .maxStay => .number rule.maxStay.toNat
  | .visaRequired => .bool rule.visaRequired
  | .category => .string (Vocabulary.token rule.category)
  | .kind => .string (Vocabulary.token rule.kind)
  | .documents => tokens rule.documents
  | .processing => .number rule.processing.toNat

theorem toJson_eq :
    rule.toJson = .object (Field.all.map fun field => (field.name, rule.value field)) := rfl

def entry : Draft × Draft := (.string ⟨.ok field.name, none⟩, (rule.value field).draft)

theorem draft_toJson : rule.toJson.draft = .object (Field.all.map rule.entry) none := by
  rw [toJson_eq, Value.draft, Value.memberDrafts_eq_map, List.map_map]
  rfl

/-! ## Plain texts -/

theorem plain_token {α : Type} [Vocabulary α] [Vocabulary.Capital α] (member : α) :
    Plain (.string (Vocabulary.token member)) :=
  .string (Vocabulary.Capital.capital member).unescaped

theorem plain_value : (rule.value field).Plain := by
  cases field with
  | destination | passport | purpose | category | kind => exact plain_token _
  | maxStay | processing => exact .number _
  | visaRequired => exact .bool _
  | documents =>
      apply Plain.list
      intro item inside
      obtain ⟨document, _, rfl⟩ := List.mem_map.mp inside
      exact plain_token document

theorem plain_toJson : rule.toJson.Plain := by
  rw [toJson_eq]
  apply Plain.object
  · intro member inside
    obtain ⟨field, _, rfl⟩ := List.mem_map.mp inside
    exact field.unescaped
  · intro member inside
    obtain ⟨field, _, rfl⟩ := List.mem_map.mp inside
    exact rule.plain_value field

theorem capital_of_mem_strings {text : Literal} (inside : text ∈ (rule.value field).draft.strings) :
    ∃ token, text.value = .ok token ∧ IsCapital token := by
  have single {α : Type} [Vocabulary α] [Vocabulary.Capital α] {member : α}
      (inside : text ∈ (Value.string (Vocabulary.token member)).draft.strings) :
      ∃ token, text.value = .ok token ∧ IsCapital token := by
    cases List.mem_singleton.mp inside
    exact ⟨_, rfl, Vocabulary.Capital.capital member⟩
  cases field with
  | destination | passport | purpose | category | kind => exact single inside
  | maxStay | visaRequired | processing => cases inside
  | documents =>
      obtain ⟨item, inItems, inItem⟩ := Json.Draft.mem_itemStrings_iff.mp inside
      rw [Value.itemDrafts_eq_map, List.map_map] at inItems
      obtain ⟨document, _, rfl⟩ := List.mem_map.mp inItems
      exact single inItem

/-! ## Decoding -/

theorem tokenDecoder_token {α : Type} [Vocabulary α] (member : α) :
    tokenDecoder (Value.string (Vocabulary.token member)).draft = .ok member := by
  simp [tokenDecoder, Value.draft, Decoder.string, Decoder.literal, Vocabulary.read_token, bind,
    Except.bind]

theorem word_toNat (count : UInt32) :
    Decoder.word (Value.number count.toNat).draft = .ok count := by
  have small : count.toNat < UInt32.size := count.toNat_lt
  simp [Value.draft, Decoder.word, small]

/-- A list decodes item by item. -/
theorem list_map {α : Type} {decoder : Decoder α} {toJson : α → Value}
    (decoded : ∀ content, decoder (toJson content).draft = .ok content) (contents : List α) :
    Decoder.list decoder (Value.list (contents.map toJson)).draft = .ok contents := by
  have read : ((contents.map toJson).map Value.draft).mapM decoder = .ok contents := by
    rw [Outcome.mapM_eq_ok_iff, List.map_map, List.forall₂_map_left_iff, List.forall₂_same]
    exact fun content _ => decoded content
  rw [Value.draft, Value.itemDrafts_eq_map, Decoder.list, read]
  rfl

theorem decoder_value : field.decoder (rule.value field).draft = .ok (rule.part field) := by
  cases field with
  | destination | passport | purpose | category | kind => exact tokenDecoder_token _
  | maxStay | processing => exact word_toNat _
  | visaRequired => rfl
  | documents => exact list_map tokenDecoder_token rule.documents

/-! ## Decoding all members -/

/-- Members of different fields each set their own part. -/
theorem members_map_entry (fields : List Field) (built : Parts) (distinct : fields.Nodup)
    (unset : ∀ field ∈ fields, built.get field = none) :
    Parts.shape.members built (fields.map rule.entry) =
      .ok (fields.foldl (fun built field => built.set field (rule.part field)) built) := by
  induction fields generalizing built with
  | nil => rfl
  | cons field rest ih =>
      obtain ⟨fresh, distinctRest⟩ := List.nodup_cons.mp distinct
      obtain ⟨unsetFirst, unsetRest⟩ := List.forall_mem_cons.mp unset
      have unsetLater : ∀ other ∈ rest, (built.set field (rule.part field)).get other = none := by
        intro other inside
        have different : other ≠ field := by
          rintro rfl
          exact fresh inside
        rw [Parts.get_set_of_ne _ different, unsetRest other inside]
      rw [List.map_cons, entry, Parts.members_cons_of_get unsetFirst (rule.decoder_value field),
        ih _ distinctRest unsetLater, List.foldl_cons]

theorem decoder_draft_toJson : Rule.decoder rule.toJson.draft = .ok rule := by
  have filled : Parts.shape.members Parts.shape.empty (Field.all.map rule.entry) = .ok _ :=
    rule.members_map_entry Field.all {} (by decide) fun field _ => Parts.get_empty field
  rw [draft_toJson, Parts.decoder_eq, Json.Shape.decode, filled]
  rfl

/-! ## Records -/

theorem tame_entries : Tame (Field.all.map rule.entry) where
  unnamed member inside text inStrings field := by
    obtain ⟨other, _, rfl⟩ := List.mem_map.mp inside
    obtain ⟨token, same, capital⟩ := rule.capital_of_mem_strings other inStrings
    rw [same]
    intro named
    cases named
    exact capital.ne_name field rfl
  scalar member inside foreign := by
    obtain ⟨field, _, rfl⟩ := List.mem_map.mp inside
    exact absurd ⟨none, rfl⟩ (foreign field)

theorem hasBrace_of_isCapital {text : String} {ending : Option Json.Flaw}
    (capital : IsCapital text) : Token.hasBrace (.string ⟨.ok text, ending⟩) = false := by
  have noOpen : '{' ∉ text.toList := capital.not_mem (by decide)
  have noClose : '}' ∉ text.toList := capital.not_mem (by decide)
  simp [Token.hasBrace, noOpen, noClose]

theorem hasBrace_value : ∀ token ∈ (rule.value field).draft.tokens, token.hasBrace = false := by
  intro token inside
  have within := (Field.sound_of_decoder (rule.decoder_value field)).2.within token inside
  cases token with
  | string text =>
      obtain ⟨value, ending⟩ := text
      obtain ⟨token, same, capital⟩ := rule.capital_of_mem_strings field within
      cases same
      exact hasBrace_of_isCapital capital
  | _ => rfl

theorem hasBrace_toJson : ∀ token ∈ rule.toJson.draft.tokens, token.hasBrace = false := by
  intro token inside
  rw [draft_toJson, Json.Draft.tokens, Json.Draft.memberTokens_eq_map, List.map_map] at inside
  simp only [List.mem_cons, List.mem_append, List.not_mem_nil, or_false] at inside
  rcases inside with rfl | between | rfl
  · rfl
  · rcases Json.Draft.mem_separated between with rfl | ⟨piece, inPieces, inPiece⟩
    · rfl
    · obtain ⟨field, _, rfl⟩ := List.mem_map.mp inPieces
      simp only [Function.comp_apply, entry, Json.Draft.tokens, List.mem_append, List.mem_cons,
        List.not_mem_nil, or_false] at inPiece
      rcases inPiece with rfl | rfl | inValue
      · cases field <;> decide
      · rfl
      · exact rule.hasBrace_value field token inValue
  · rfl

theorem spelled_toJson (level : Nat) :
    Spelled (Draft.object (Field.all.map rule.entry) none).tokens (rule.toJson.write level) := by
  rw [← draft_toJson]
  exact Value.spelled_write rule.plain_toJson level

theorem understood_entries : ∀ member ∈ Field.all.map rule.entry, Parts.Understood member := by
  have decoded := rule.decoder_draft_toJson
  rw [draft_toJson] at decoded
  exact (gives_of_decoder decoded).2.1

theorem yields_write (level : Nat) :
    Yields (rule.toJson.write level) [rule.toJson.write level] := by
  have braceless : ∀ token ∈ (Draft.object (Field.all.map rule.entry) none).tokens,
      token.hasBrace = false := by
    rw [← draft_toJson]
    exact rule.hasBrace_toJson
  obtain ⟨_, same, plain⟩ := rule.tame_entries.isPlainObject rule.understood_entries braceless
  cases same
  exact Record.yields_of_head (rule.spelled_toJson level) plain rfl

/-- A written rule is read as the rule, unless a count is too great for a record. -/
theorem read_write (level : Nat) : Record.read (rule.toJson.write level) = rule.fromRecord := by
  have decoded := rule.decoder_draft_toJson
  rw [draft_toJson] at decoded
  exact Record.read_eq_fromRecord (rule.spelled_toJson level)
    (rule.tame_entries.legible rule.understood_entries) decoded

end Rule

end Visa
