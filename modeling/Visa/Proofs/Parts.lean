import Visa.Exchange.Reading
import Visa.Proofs.Outcome
import Visa.Record.Member

namespace Visa

/-! What an object that decodes to a rule holds: for each field the first member of its name has
the field's part of the rule as its value, and only the documents may have no member. -/

open Json (Decoder Draft Failure Shape Slot)
open Record (Field)

namespace Record.Field

def all : List Field :=
  [.destination, .passport, .purpose, .maxStay, .visaRequired, .category, .kind, .documents,
    .processing]

theorem mem_all (field : Field) : field ∈ all := by cases field <;> decide

instance {property : Field → Prop} [DecidablePred property] :
    Decidable (∀ field : Field, property field) :=
  decidable_of_iff (∀ field ∈ all, property field)
    ⟨fun every field => every field field.mem_all, fun every field _ => every field⟩

theorem name_injective {left right : Field} (same : left.name = right.name) : left = right := by
  revert same
  cases left <;> cases right <;> decide

def Content : Field → Type
  | .destination | .passport => Country
  | .purpose => Purpose
  | .maxStay | .processing => UInt32
  | .visaRequired => Bool
  | .category => Category
  | .kind => Kind
  | .documents => List Document

def decoder : (field : Field) → Decoder field.Content
  | .destination | .passport => tokenDecoder (α := Country)
  | .purpose => tokenDecoder (α := Purpose)
  | .maxStay | .processing => Decoder.word
  | .visaRequired => Decoder.bool
  | .category => tokenDecoder (α := Category)
  | .kind => tokenDecoder (α := Kind)
  | .documents => Decoder.list (tokenDecoder (α := Document))

def Names (field : Field) (key : Draft) : Prop :=
  ∃ ending, key = .string ⟨.ok field.name, ending⟩

instance (field : Field) : DecidablePred field.Names
  | .string ⟨.ok name, ending⟩ =>
      decidable_of_iff (name = field.name)
        ⟨fun same => ⟨ending, by rw [same]⟩, fun ⟨_, same⟩ => by cases same; rfl⟩
  | .string ⟨.error _, _⟩ | .null | .bool _ | .number _ | .list _ _ | .object _ _ | .broken _
  | .unfinished | .absent => isFalse nofun

end Record.Field

namespace Rule

def part (rule : Rule) : (field : Field) → field.Content
  | .destination => rule.destination
  | .passport => rule.passport
  | .purpose => rule.purpose
  | .maxStay => rule.maxStay
  | .visaRequired => rule.visaRequired
  | .category => rule.category
  | .kind => rule.kind
  | .documents => rule.documents
  | .processing => rule.processing

namespace Parts

variable {field other : Field} {parts built result : Parts} {members rest : List (Draft × Draft)}

def get (parts : Parts) : (field : Field) → Option field.Content
  | .destination => parts.destination
  | .passport => parts.passport
  | .purpose => parts.purpose
  | .maxStay => parts.maxStay
  | .visaRequired => parts.visaRequired
  | .category => parts.category
  | .kind => parts.kind
  | .documents => parts.documents
  | .processing => parts.processing

def set (parts : Parts) : (field : Field) → field.Content → Parts
  | .destination, content => { parts with destination := some content }
  | .passport, content => { parts with passport := some content }
  | .purpose, content => { parts with purpose := some content }
  | .maxStay, content => { parts with maxStay := some content }
  | .visaRequired, content => { parts with visaRequired := some content }
  | .category, content => { parts with category := some content }
  | .kind, content => { parts with kind := some content }
  | .documents, content => { parts with documents := some content }
  | .processing, content => { parts with processing := some content }

theorem get_set (content : field.Content) : (parts.set field content).get field = some content := by
  cases field <;> rfl

theorem get_set_of_ne (content : field.Content) (different : other ≠ field) :
    (parts.set field content).get other = parts.get other := by
  cases field <;> cases other <;> first | rfl | exact absurd rfl different

theorem get_empty (field : Field) : get {} field = none := by
  cases field <;> rfl

/-! ## Members -/

def slot (field : Field) : Slot Parts where
  name := field.name
  inList := field = .documents
  isFilled parts := (parts.get field).isSome
  fill parts draft := (field.decoder draft).map (parts.set field)

theorem slots_eq : slots = Field.all.map slot := rfl

def shape : Shape Parts Rule := ⟨"struct VisaRule", slots, {}, complete⟩

theorem decoder_eq : Rule.decoder = shape.decode := rfl

theorem find?_slots_eq_none {key : String}
    (unknown : slots.find? (fun slot => slot.name == key) = none) : ∀ field : Field,
    field.name ≠ key := by
  intro field
  have passed := List.find?_eq_none.mp unknown (slot field)
    (by rw [slots_eq]; exact List.mem_map_of_mem field.mem_all)
  simpa [slot] using passed

theorem find?_slots_eq_some {key : String} {found : Slot Parts}
    (known : slots.find? (fun slot => slot.name == key) = some found) :
    ∃ field : Field, found = slot field ∧ field.name = key := by
  have named : (found.name == key) = true :=
    List.find?_some (p := fun slot : Slot Parts => slot.name == key) known
  have listed := List.mem_of_find?_eq_some known
  rw [slots_eq] at listed
  obtain ⟨field, _, rfl⟩ := List.mem_map.mp listed
  exact ⟨field, rfl, beq_iff_eq.mp named⟩

/-- A key that is no field's name has its value skipped. A field's name gives the field its part,
once. -/
theorem exists_of_members_cons {key value : Draft}
    (decoded : shape.members built ((key, value) :: rest) = .ok result) :
    ∃ name ending, key = .string ⟨.ok name, ending⟩ ∧
      ((∀ field : Field, field.name ≠ name) ∧ value.flaw? = none ∧
          shape.members built rest = .ok result ∨
        ∃ (field : Field) (content : field.Content), field.name = name ∧
          built.get field = none ∧ field.decoder value = .ok content ∧
          shape.members (built.set field content) rest = .ok result) := by
  cases key with
  | string text =>
      obtain ⟨spelling, ending⟩ := text
      obtain ⟨name, literal, more⟩ := Outcome.bind_eq_ok_iff.mp decoded
      cases spelling with
      | error flaw => contradiction
      | ok name =>
          cases literal
          refine ⟨name, ending, rfl, ?_⟩
          cases known : slots.find? (fun slot => slot.name == name) with
          | none =>
              have skipping : (Decoder.skip value >>= fun _ => shape.members built rest) =
                  .ok result := by
                simpa only [shape, known] using more
              obtain ⟨_, skipped, later⟩ := Outcome.bind_eq_ok_iff.mp skipping
              refine .inl ⟨find?_slots_eq_none known, ?_, later⟩
              cases flaw : value.flaw? with
              | none => rfl
              | some reason => simp [Decoder.skip, Decoder.ended, flaw] at skipped
          | some found =>
              obtain ⟨field, rfl, named⟩ := find?_slots_eq_some known
              have filling : (if (built.get field).isSome then .error (Shape.duplicate field.name)
                  else (field.decoder value).map (built.set field) >>= fun built =>
                    shape.members built rest) = .ok result := by
                simpa only [shape, known, slot] using more
              split at filling
              · contradiction
              · rename_i unset
                obtain ⟨next, filled, later⟩ := Outcome.bind_eq_ok_iff.mp filling
                obtain ⟨content, read, rfl⟩ := Outcome.map_eq_ok_iff.mp filled
                exact .inr ⟨field, content, named, by simpa using unset, read, later⟩
  | _ => contradiction

theorem members_cons_of_get {content : field.Content} {value : Draft}
    {ending : Option Json.Flaw} (unset : built.get field = none)
    (read : field.decoder value = .ok content) :
    shape.members built ((.string ⟨.ok field.name, ending⟩, value) :: rest) =
      shape.members (built.set field content) rest := by
  have known : slots.find? (fun slot => slot.name == field.name) = some (slot field) := by
    cases found : slots.find? fun slot => slot.name == field.name with
    | none => exact absurd rfl (find?_slots_eq_none found field)
    | some other =>
        obtain ⟨named, rfl, same⟩ := find?_slots_eq_some found
        rw [Field.name_injective same]
  simp [Shape.members, Decoder.literal, shape, known, slot, unset, read, bind, Except.bind,
    Except.map]

theorem get_of_members {content : field.Content} (given : built.get field = some content)
    (decoded : shape.members built members = .ok result) : result.get field = some content := by
  induction members generalizing built with
  | nil =>
      cases decoded
      exact given
  | cons member rest ih =>
      obtain ⟨key, value⟩ := member
      obtain ⟨_, _, _, skipped | filled⟩ := exists_of_members_cons decoded
      · exact ih given skipped.2.2
      · obtain ⟨other, part, _, unset, _, later⟩ := filled
        have different : field ≠ other := by
          rintro rfl
          rw [given] at unset
          contradiction
        exact ih (by rw [get_set_of_ne part different, given]) later

def Lacks (members : List (Draft × Draft)) (field : Field) : Prop :=
  ∀ member ∈ members, ¬field.Names member.1

/-- The first member with the name of a field has a value of this content. -/
def Gives {α : Type} (members : List (Draft × Draft)) (field : Field) (decoder : Decoder α)
    (content : α) : Prop :=
  ∃ before key value after, members = before ++ (key, value) :: after ∧ Lacks before field ∧
    field.Names key ∧ decoder value = .ok content

theorem lacks_or_gives (unset : built.get field = none)
    (decoded : shape.members built members = .ok result) :
    result.get field = none ∧ Lacks members field ∨
      ∃ content, result.get field = some content ∧
        Gives members field field.decoder content := by
  induction members generalizing built with
  | nil =>
      cases decoded
      exact .inl ⟨unset, nofun⟩
  | cons member rest ih =>
      obtain ⟨key, value⟩ := member
      obtain ⟨name, ending, rfl, step⟩ := exists_of_members_cons decoded
      -- A member of another name leaves the field as it was, given or not by what follows.
      have passed (foreign : field.name ≠ name) {next : Parts} (unset : next.get field = none)
          (later : shape.members next rest = .ok result) :
          result.get field = none ∧ Lacks ((.string ⟨.ok name, ending⟩, value) :: rest) field ∨
            ∃ content, result.get field = some content ∧
              Gives ((.string ⟨.ok name, ending⟩, value) :: rest) field field.decoder
                content := by
        have unnamed : ¬field.Names (.string ⟨.ok name, ending⟩) := by
          rintro ⟨_, same⟩
          cases same
          exact foreign rfl
        rcases ih unset later with ⟨none, lacks⟩ | ⟨content, given, found⟩
        · exact .inl ⟨none, by simpa [Lacks, unnamed] using lacks⟩
        · obtain ⟨before, key, value, after, rfl, absent, names, read⟩ := found
          refine .inr ⟨content, given, _ :: before, key, value, after, rfl, ?_, names, read⟩
          simpa [Lacks, unnamed] using absent
      rcases step with ⟨unknown, _, later⟩ | ⟨other, content, rfl, _, read, later⟩
      · exact passed (unknown field) unset later
      · by_cases same : field = other
        · subst same
          exact .inr ⟨content, get_of_members (get_set content) later, [], _, value, rest, rfl,
            nofun, ⟨ending, rfl⟩, read⟩
        · refine passed (fun named => same (Field.name_injective named)) ?_ later
          rw [get_set_of_ne content same, unset]

/-- What decoding an object asks of each of its members. -/
def Understood (member : Draft × Draft) : Prop :=
  ∃ name ending, member.1 = .string ⟨.ok name, ending⟩ ∧
    ((∀ field : Field, field.name ≠ name) ∧ member.2.flaw? = none ∨
      ∃ (field : Field) (content : field.Content), field.name = name ∧
        field.decoder member.2 = .ok content)

theorem understood_of_members (decoded : shape.members built members = .ok result) :
    ∀ member ∈ members, Understood member := by
  induction members generalizing built with
  | nil => nofun
  | cons member rest ih =>
      obtain ⟨key, value⟩ := member
      obtain ⟨name, ending, rfl, step⟩ := exists_of_members_cons decoded
      refine List.forall_mem_cons.mpr ?_
      rcases step with ⟨unknown, sound, later⟩ | ⟨field, content, named, _, read, later⟩
      · exact ⟨⟨name, ending, rfl, .inl ⟨unknown, sound⟩⟩, ih later⟩
      · exact ⟨⟨name, ending, rfl, .inr ⟨field, content, named, read⟩⟩, ih later⟩

/-! ## Completion -/

theorem required_eq_ok_iff {α : Type} {name : String} {found : Option α} {value : α} :
    Json.required name found = .ok value ↔ found = some value := by
  cases found <;> simp [Json.required]

theorem get_of_complete {rule : Rule} (completed : parts.complete = .ok rule) (field : Field) :
    parts.get field = some (rule.part field) ∨
      field = .documents ∧ parts.get .documents = none ∧ rule.documents = [] := by
  simp only [complete, Outcome.bind_eq_ok_iff, required_eq_ok_iff] at completed
  obtain ⟨destination, foundDestination, passport, foundPassport, purpose, foundPurpose, maxStay,
    foundMaxStay, visaRequired, foundVisaRequired, category, foundCategory, kind, foundKind,
    processing, foundProcessing, same⟩ := completed
  cases same
  cases field with
  | destination => exact .inl foundDestination
  | passport => exact .inl foundPassport
  | purpose => exact .inl foundPurpose
  | maxStay => exact .inl foundMaxStay
  | visaRequired => exact .inl foundVisaRequired
  | category => exact .inl foundCategory
  | kind => exact .inl foundKind
  | processing => exact .inl foundProcessing
  | documents =>
      cases given : parts.documents with
      | none => exact .inr ⟨rfl, given, rfl⟩
      | some documents => exact .inl given

end Parts

open Parts (Gives Lacks Understood)

/-- The members of a decoded object hold the parts of the rule, each under its own name. -/
theorem gives_of_decoder {rule : Rule} {members : List (Draft × Draft)} {stop : Option Json.Flaw}
    (decoded : Rule.decoder (.object members stop) = .ok rule) :
    stop = none ∧ (∀ member ∈ members, Understood member) ∧
      ∀ field : Field, Gives members field field.decoder (rule.part field) ∨
        field = .documents ∧ Lacks members .documents ∧ rule.documents = [] := by
  rw [Parts.decoder_eq] at decoded
  simp only [Shape.decode, Outcome.bind_eq_ok_iff] at decoded
  obtain ⟨parts, filled, _, ended, completed⟩ := decoded
  refine ⟨?_, Parts.understood_of_members filled, fun field => ?_⟩
  · cases stop with
    | none => rfl
    | some flaw => contradiction
  · have start : Parts.get {} field = none := Parts.get_empty field
    rcases Parts.get_of_complete completed field with given | ⟨rfl, missing, empty⟩
    · rcases Parts.lacks_or_gives start filled with ⟨none, _⟩ | ⟨content, found, gives⟩
      · rw [given] at none
        contradiction
      · cases given.symm.trans found
        exact .inl gives
    · rcases Parts.lacks_or_gives start filled with ⟨_, lacks⟩ | ⟨content, found, _⟩
      · exact .inr ⟨rfl, lacks, empty⟩
      · rw [missing] at found
        contradiction

end Rule

end Visa
