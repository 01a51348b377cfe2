import Visa.Proofs.Interpretation
import Visa.Proofs.Parts

namespace Visa

/-! The fields that a record has to have. They are looked for in one order, and the first that is
not found is the fault of the record, before anything in it is interpreted. -/

open Outcome (FailsWith)
open Record (Field)

namespace Record

/-! ## Required fields -/

/-- In the order in which they are looked for. -/
def Field.required : List Field :=
  [.destination, .passport, .purpose, .maxStay, .visaRequired, .category, .kind, .processing]

/-- Documents count as found in any record: no list reads as the empty list. -/
def Field.isFound (field : Field) (record : List Char) : Bool :=
  match field with
  | .destination | .passport | .purpose | .category | .kind => (string? field record).isSome
  | .maxStay | .processing => (count? field record).isSome
  | .visaRequired => (boolean? field record).isSome
  | .documents => true

variable {α β : Type} {record : List Char} {field : Field} {fields : List Field}

/-- A computation that gives a value unless the record lacks one of the fields; the first that it
lacks is the fault. -/
def Demands (record : List Char) (fields : List Field) (outcome : Except Fault α) : Prop :=
  match fields.find? fun field => !field.isFound record with
  | some field => outcome = .error (.missingField field.name)
  | none => ∃ value, outcome = .ok value

theorem demands_required {found : Option α} {next : α → Except Fault β}
    (isFound : field.isFound record = found.isSome)
    (later : ∀ value, Demands record fields (next value)) :
    Demands record (field :: fields) (required field found >>= next) := by
  unfold Demands
  cases found with
  | none => simp [isFound, required, bind, Except.bind]
  | some value =>
      have rest := later value
      unfold Demands at rest
      simpa [List.find?_cons, isFound, required, bind, Except.bind] using rest

theorem demands_requiredString {next : String → Except Fault β}
    (isFound : field.isFound record = (string? field record).isSome)
    (later : ∀ value, Demands record fields (next value)) :
    Demands record (field :: fields) (requiredString field record >>= next) := by
  have same : requiredString field record >>= next =
      required field (string? field record) >>= fun text => next (String.ofList text) := by
    rw [requiredString]
    cases string? field record <;> rfl
  rw [same]
  exact demands_required isFound fun text => later _

theorem demands_members (record : List Char) : Demands record Field.required (members record) :=
  demands_requiredString rfl fun _ =>
  demands_requiredString rfl fun _ =>
  demands_requiredString rfl fun _ =>
  demands_required rfl fun _ =>
  demands_required rfl fun _ =>
  demands_requiredString rfl fun _ =>
  demands_requiredString rfl fun _ =>
  demands_required rfl fun _ => ⟨_, rfl⟩

/-! ## Missing fields -/

theorem Demands.failsWith {outcome : Except Fault α} (demands : Demands record fields outcome) :
    FailsWith (fun fault => ∃ field : Field, fault = .missingField field.name) outcome := by
  unfold Demands at demands
  rintro fault rfl
  cases first : fields.find? fun field => !field.isFound record with
  | some field =>
      rw [first] at demands
      exact ⟨field, Except.error.inj demands⟩
  | none =>
      rw [first] at demands
      obtain ⟨value, same⟩ := demands
      contradiction

/-- A field is missing from a record if and only if it is the first one that is not found. -/
theorem read_eq_missingField_iff :
    read record = .error (.missingField field.name) ↔
      Field.required.find? (fun other => !other.isFound record) = some field := by
  have demands := demands_members record
  unfold Demands at demands
  cases first : Field.required.find? fun other => !other.isFound record with
  | none =>
      rw [first] at demands
      obtain ⟨found, whole⟩ := demands
      rw [read, whole]
      refine ⟨fun failed => ?_, nofun⟩
      cases failsWith_toRule found _ failed
  | some other =>
      rw [first] at demands
      rw [read, demands]
      constructor
      · intro same
        rw [Field.name_injective (Fault.missingField.inj (Except.error.inj same))]
      · rintro ⟨⟩
        rfl

end Record

end Visa
