import Visa.Proofs.Json.Retrieval
import Visa.Proofs.Writing

namespace Visa

/-! Written values read back. What is written of a rule, of a list of rules, of a trip or of a
decision decodes to it again, so a text that decodes and is written again does not change any
more. -/

open Json (Decoder Draft Failure Flaw Shape Slot Token Value decodeText)

namespace Json

variable {α β γ : Type}

/-- The texts of a type read back: the draft of each is decoded, and no number in it is too great
to be read as it is. -/
structure Readable (decoder : Decoder α) (toJson : α → Value) : Prop where
  moderate (content : α) : (toJson content).Moderate
  decoded (content : α) : decoder (toJson content).draft = .ok content

/-! ## Parts -/

namespace Readable

variable {decoder : Decoder α} {toJson : α → Value}

theorem bool : Readable Decoder.bool Value.bool := ⟨.bool, fun _ => rfl⟩

theorem string : Readable Decoder.string Value.string := ⟨.string, fun _ => rfl⟩

theorem word : Readable Decoder.word fun count => .number count.toNat where
  moderate count := by
    have small : count.toNat < UInt32.size := count.toNat_lt
    exact .number (Nat.le_trans (Nat.le_of_lt small) (by decide))
  decoded := Rule.word_toNat

theorem token [Vocabulary α] :
    Readable tokenDecoder fun member : α => .string (Vocabulary.token member) :=
  ⟨fun _ => .string _, Rule.tokenDecoder_token⟩

theorem list (readable : Readable decoder toJson) :
    Readable (Decoder.list decoder) fun contents => .list (contents.map toJson) where
  moderate contents := by
    refine .list fun item inside => ?_
    obtain ⟨content, _, rfl⟩ := List.mem_map.mp inside
    exact readable.moderate content
  decoded contents := Rule.list_map readable.decoded contents

theorem decodeText_append (readable : Readable decoder toJson) (content : α) {space : List Char}
    (blank : Token.AllSpace space) :
    decodeText decoder ((toJson content).render ++ space) = .ok content := by
  rw [(readable.moderate content).decodeText_render decoder blank, readable.decoded]

theorem decodeText_render (readable : Readable decoder toJson) (content : α) :
    decodeText decoder (toJson content).render = .ok content := by
  have decoded := readable.decodeText_append content (List.forall_mem_nil _)
  rwa [List.append_nil] at decoded

end Readable

/-- A member with the name of an unfilled part fills it with its content. -/
theorem Shape.members_cons {shape : Shape β α} {built : β} {slot : Slot β} {key : String}
    {ending : Option Flaw} {value : Draft} {decoder : Decoder γ} {set : γ → β} {content : γ}
    (rest : List (Draft × Draft))
    (known : shape.slots.find? (fun slot => slot.name == key) = some slot)
    (unset : slot.isFilled built = false)
    (fills : ∀ draft, slot.fill built draft = (decoder draft).map set)
    (read : decoder value = .ok content) :
    shape.members built ((.string ⟨.ok key, ending⟩, value) :: rest) =
      shape.members (set content) rest := by
  simp only [members, Decoder.literal, known, unset, fills, read, Except.map, bind, Except.bind,
    Bool.false_eq_true, if_false]

/-! ## Texts -/

/-- A text decoded, and what it gives written again. -/
def normalized (decoder : Decoder α) (toJson : α → Value) (text : List Char) :
    Except Failure (List Char) :=
  (decodeText decoder text).map fun content => (toJson content).render

/-- Decoding takes back writing, and decoding followed by writing takes every text that decodes to
a text that stands for the same and stays as it is. -/
structure ReadsBack (decoder : Decoder α) (toJson : α → Value) : Prop where
  written (content : α) : decodeText decoder (toJson content).render = .ok content
  reread {text : List Char} {content : α} (decoded : decodeText decoder text = .ok content) :
    ∃ again, normalized decoder toJson text = .ok again ∧ decodeText decoder again = .ok content
  idempotent (text : List Char) :
    normalized decoder toJson text >>= normalized decoder toJson = normalized decoder toJson text

theorem Readable.readsBack {decoder : Decoder α} {toJson : α → Value}
    (readable : Readable decoder toJson) : ReadsBack decoder toJson where
  written := readable.decodeText_render
  reread {text content} decoded := by
    refine ⟨(toJson content).render, ?_, readable.decodeText_render content⟩
    rw [normalized, decoded]
    rfl
  idempotent text := by
    rw [normalized]
    cases decodeText decoder text with
    | error failure => rfl
    | ok content =>
        change normalized decoder toJson (toJson content).render = _
        rw [normalized, readable.decodeText_render]

end Json

open Json (ReadsBack Readable)

/-! ## Rules -/

theorem Rule.readable : Readable Rule.decoder Rule.toJson where
  moderate rule := by
    rw [Rule.toJson_eq]
    refine .object fun member inside => ?_
    obtain ⟨field, _, rfl⟩ := List.mem_map.mp inside
    cases field with
    | destination | passport | purpose | category | kind => exact .string _
    | maxStay | processing => exact Readable.word.moderate _
    | visaRequired => exact .bool _
    | documents => exact Readable.token.list.moderate _
  decoded := Rule.decoder_draft_toJson

/-! ## Trips -/

theorem Trip.readable : Readable Trip.decoder Trip.toJson where
  moderate trip := by
    refine .object ?_
    simp only [List.forall_mem_cons, List.not_mem_nil, false_implies, implies_true, and_true]
    exact ⟨.string _, .string _, .string _, Readable.word.moderate _⟩
  decoded trip := by
    have destination : tokenDecoder (Value.string trip.destination.token).draft =
        .ok trip.destination := Readable.token.decoded _
    have passport : tokenDecoder (Value.string trip.passport.token).draft = .ok trip.passport :=
      Readable.token.decoded _
    have purpose : tokenDecoder (Value.string trip.purpose.token).draft = .ok trip.purpose :=
      Readable.token.decoded _
    have stay := Readable.word.decoded trip.stay
    rw [decoder, toJson, Value.draft, Shape.decode]
    simp only [Value.memberDrafts]
    rw [Shape.members_cons _ rfl rfl (fun _ => rfl) destination,
      Shape.members_cons _ rfl rfl (fun _ => rfl) passport,
      Shape.members_cons _ rfl rfl (fun _ => rfl) purpose,
      Shape.members_cons _ rfl rfl (fun _ => rfl) stay]
    rfl

/-! ## Decisions -/

theorem Decision.readable : Readable Decision.decoder Decision.toJson where
  moderate decision := by
    refine .object ?_
    simp only [List.forall_mem_cons, List.not_mem_nil, false_implies, implies_true, and_true]
    exact ⟨.bool _, .string _, .string _, Readable.token.list.moderate _,
      Readable.word.moderate _, Readable.string.list.moderate _⟩
  decoded decision := by
    have required := Readable.bool.decoded decision.visaRequired
    have category : tokenDecoder (Value.string decision.category.token).draft =
        .ok decision.category := Readable.token.decoded _
    have kind : tokenDecoder (Value.string decision.kind.token).draft = .ok decision.kind :=
      Readable.token.decoded _
    have documents : Decoder.list tokenDecoder (tokens decision.documents).draft =
        .ok decision.documents := Readable.token.list.decoded _
    have processing := Readable.word.decoded decision.processing
    have warnings := Readable.string.list.decoded decision.warnings
    rw [decoder, toJson, Value.draft, Shape.decode]
    simp only [Value.memberDrafts]
    rw [Shape.members_cons _ rfl rfl (fun _ => rfl) required,
      Shape.members_cons _ rfl rfl (fun _ => rfl) category,
      Shape.members_cons _ rfl rfl (fun _ => rfl) kind,
      Shape.members_cons _ rfl rfl (fun _ => rfl) documents,
      Shape.members_cons _ rfl rfl (fun _ => rfl) processing,
      Shape.members_cons _ rfl rfl (fun _ => rfl) warnings]
    rfl

/-- Rules, lists of rules, trips and decisions decode to themselves once they are written, whatever
their counts, documents and warnings are. -/
theorem readsBack_rule_rules_trip_decision :
    ReadsBack Rule.decoder Rule.toJson ∧
      ReadsBack (Decoder.list Rule.decoder) (fun rules => .list (rules.map Rule.toJson)) ∧
      ReadsBack Trip.decoder Trip.toJson ∧
      ReadsBack Decision.decoder Decision.toJson :=
  ⟨Rule.readable.readsBack, Rule.readable.list.readsBack, Trip.readable.readsBack,
    Decision.readable.readsBack⟩

/-- A trip given as a list of its parts is written as an object. -/
example :
    Json.normalized Trip.decoder Trip.toJson
        "[\"JAPAN\", \"USA\", \"TOURISM\", 30]".toList =
      .ok (Trip.toJson ⟨⟨.japan, .usa, .tourism⟩, 30⟩).render := by
  decide +kernel

end Visa
