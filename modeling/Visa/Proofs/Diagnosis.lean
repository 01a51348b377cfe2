import Visa.Proofs.Extraction
import Visa.Proofs.Required

namespace Visa

/-! Which fault a record has that is no rule. What is missing comes before what means nothing, and
in both respects the first field counts; the order of the fields is not the same in the two. -/

open Outcome (EndsAtFirst)

/-! ## Counts as integers -/

namespace DayCount

/-- The integer that digits stand for, with a minus sign or without. -/
def integer? : List Char → Option Int
  | '-' :: text => (digits? text).map fun value : Nat => -(value : Int)
  | text => (digits? text).map Int.ofNat

/-- A record can give the integers from zero to its limit. -/
def isAdmitted (value : Int) : Bool := 0 ≤ value && value ≤ recordLimit

theorem ofRecord?_eq (text : List Char) :
    ofRecord? text = ((integer? text).filter isAdmitted).map fun value =>
      UInt32.ofNat value.toNat := by
  fun_cases ofRecord? text with
  | case1 digits =>
      rw [integer?]
      cases digits? digits with
      | none => rfl
      | some value =>
          cases value with
          | zero => rfl
          | succ value =>
              have negative : isAdmitted (-((value + 1 : Nat) : Int)) = false := by
                rw [isAdmitted, Bool.and_eq_false_iff, decide_eq_false_iff_not]
                left
                omega
              rw [Option.bind_some, Option.map_some, Option.filter_some, negative]
              rfl
  | case2 digits unsigned =>
      rw [integer?]
      · cases digits? text with
        | none => rfl
        | some value =>
            by_cases small : value ≤ recordLimit
            · simp [upTo, isAdmitted, Option.filter, small]
            · simp [upTo, isAdmitted, Option.filter, small]
      · exact unsigned

end DayCount

/-! ## Texts that mean nothing -/

namespace Record

/-- The fault of a text that is no token of the vocabulary. -/
def unknown? (α : Type) [Vocabulary α] (text : List Char) : Option Fault :=
  if String.ofList text ∈ (Vocabulary.all (α := α)).map Vocabulary.token then none
  else some (.unknownToken (Vocabulary.subject α) (String.ofList text))

/-- The fault of a text that is no integer a record can give. -/
def uncounted? (field : Field) (text : List Char) : Option Fault :=
  if (DayCount.integer? text).any DayCount.isAdmitted then none
  else some (.invalidCount field.name (String.ofList text))

/-- In the order in which what was found is interpreted. A truth value always means something. -/
def Field.interpreted : List Field :=
  [.destination, .passport, .purpose, .maxStay, .category, .kind, .documents, .processing]

/-- The fault of what the record gives for a field. -/
def misread? (record : List Char) : Field → Option Fault
  | .destination => (string? .destination record).bind (unknown? Country)
  | .passport => (string? .passport record).bind (unknown? Country)
  | .purpose => (string? .purpose record).bind (unknown? Purpose)
  | .maxStay => (count? .maxStay record).bind (uncounted? .maxStay)
  | .visaRequired => none
  | .category => (string? .category record).bind (unknown? Category)
  | .kind => (string? .kind record).bind (unknown? Kind)
  | .documents => (items .documents record).findSome? (unknown? Document)
  | .processing => (count? .processing record).bind (uncounted? .processing)

variable {record text : List Char} {field : Field}

theorem endsAtFirst_read (α : Type) [Vocabulary α] (text : List Char) :
    EndsAtFirst [unknown? α text] (Vocabulary.read (α := α) (String.ofList text)) := by
  by_cases known : String.ofList text ∈ (Vocabulary.all (α := α)).map Vocabulary.token
  · obtain ⟨member, _, same⟩ := List.mem_map.mp known
    rw [unknown?, if_pos known]
    exact ⟨member, Vocabulary.read_eq_ok_iff.mpr same.symm⟩
  · rw [unknown?, if_neg known]
    change Vocabulary.read (α := α) (String.ofList text) = _
    unfold Vocabulary.read
    cases found : Vocabulary.ofToken? (α := α) (String.ofList text) with
    | none => rfl
    | some member =>
        have same := Vocabulary.ofToken?_eq_some_iff.mp found
        exact absurd (List.mem_map.mpr ⟨member, Vocabulary.mem_all member, same⟩) known

theorem endsAtFirst_token (α : Type) [Vocabulary α] {token : String}
    (found : string? field record = some token.toList) :
    EndsAtFirst [(string? field record).bind (unknown? α)] (Vocabulary.read (α := α) token) := by
  have ends := endsAtFirst_read α token.toList
  rw [String.ofList_toList] at ends
  rwa [found]

theorem endsAtFirst_dayCount (found : count? field record = some text) :
    EndsAtFirst [(count? field record).bind (uncounted? field)] (dayCount field text) := by
  rw [found, Option.bind_some, uncounted?, dayCount, DayCount.ofRecord?_eq]
  cases DayCount.integer? text with
  | none => rfl
  | some value =>
      by_cases admitted : DayCount.isAdmitted value
      · simp [Option.filter, admitted, EndsAtFirst]
      · simp [Option.filter, admitted, EndsAtFirst]

theorem endsAtFirst_documents (texts : List (List Char)) :
    EndsAtFirst [texts.findSome? (unknown? Document)]
      ((texts.map String.ofList).mapM (Vocabulary.read (α := Document))) := by
  rw [List.mapM_map]
  exact EndsAtFirst.mapM (endsAtFirst_read Document) texts

theorem endsAtFirst_toRule {members : Members} (found : Record.members record = .ok members) :
    EndsAtFirst (Field.interpreted.map (misread? record)) members.toRule := by
  simp only [Record.members, Outcome.bind_eq_ok_iff, requiredString_eq_ok_iff,
    required_eq_ok_iff] at found
  obtain ⟨destination, foundDestination, passport, foundPassport, purpose, foundPurpose, maxStay,
    foundMaxStay, visaRequired, foundVisaRequired, category, foundCategory, kind, foundKind,
    processing, foundProcessing, same⟩ := found
  cases same
  exact (endsAtFirst_token Country foundDestination).bind fun _ =>
    (endsAtFirst_token Country foundPassport).bind fun _ =>
    (endsAtFirst_token Purpose foundPurpose).bind fun _ =>
    (endsAtFirst_dayCount foundMaxStay).bind fun _ =>
    (endsAtFirst_token Category foundCategory).bind fun _ =>
    (endsAtFirst_token Kind foundKind).bind fun _ =>
    (endsAtFirst_documents (items .documents record)).bind fun _ =>
    (endsAtFirst_dayCount foundProcessing).bind fun _ => Outcome.endsAtFirst_of_ok rfl

/-! ## What is shown -/

theorem isFound_of_shows {content : field.Content} (shown : Shows record field content) :
    field.isFound record := by
  cases field with
  | destination | passport | purpose | category | kind =>
      exact Option.isSome_of_eq_some shown
  | maxStay | processing =>
      obtain ⟨text, found, _⟩ := shown
      exact Option.isSome_of_eq_some found
  | visaRequired =>
      obtain ⟨text, found, _⟩ := shown
      exact Option.isSome_of_eq_some found
  | documents => rfl

theorem unknown?_token {α : Type} [Vocabulary α] (member : α) :
    unknown? α (Vocabulary.token member).toList = none := by
  rw [unknown?, String.ofList_toList, if_pos]
  exact List.mem_map.mpr ⟨member, Vocabulary.mem_all member, rfl⟩

theorem unknown?_of_showsToken {α : Type} [Vocabulary α] {member : α}
    (shown : ShowsToken field record member) :
    (string? field record).bind (unknown? α) = none := by
  rw [shown, Option.bind_some, unknown?_token]

theorem uncounted?_of_showsCount {count : UInt32} (shown : ShowsCount field record count) :
    (count? field record).bind (uncounted? field) = none := by
  obtain ⟨text, found, read⟩ := shown
  rw [DayCount.ofRecord?_eq] at read
  obtain ⟨value, kept, _⟩ := Option.map_eq_some_iff.mp read
  obtain ⟨integer, admitted⟩ := Option.filter_eq_some_iff.mp kept
  rw [found, Option.bind_some, uncounted?, integer, Option.any_some, if_pos admitted]

/-- What a record shows is not misread. -/
theorem misread?_of_shows {content : field.Content} (shown : Shows record field content) :
    misread? record field = none := by
  cases field with
  | destination => exact unknown?_of_showsToken (α := Country) shown
  | passport => exact unknown?_of_showsToken (α := Country) shown
  | purpose => exact unknown?_of_showsToken (α := Purpose) shown
  | category => exact unknown?_of_showsToken (α := Category) shown
  | kind => exact unknown?_of_showsToken (α := Kind) shown
  | maxStay => exact uncounted?_of_showsCount shown
  | processing => exact uncounted?_of_showsCount shown
  | visaRequired => rfl
  | documents =>
      have found : items .documents record = _ := shown
      rw [misread?, found, List.findSome?_eq_none_iff]
      intro text inside
      obtain ⟨document, _, rfl⟩ := List.mem_map.mp inside
      exact unknown?_token document

/-! ## The fault of a record -/

theorem required_find?_eq_none_iff :
    Field.required.find? (fun field => !field.isFound record) = none ↔
      ∀ field ∈ Field.required, field.isFound record := by
  simp [List.find?_eq_none]

theorem exists_members_of_found (whole : ∀ field ∈ Field.required, field.isFound record) :
    ∃ members, Record.members record = .ok members := by
  have demands := demands_members record
  unfold Demands at demands
  rwa [required_find?_eq_none_iff.mpr whole] at demands

theorem endsAtFirst_of_found (whole : ∀ field ∈ Field.required, field.isFound record) :
    EndsAtFirst (Field.interpreted.map (misread? record)) (read record) := by
  obtain ⟨members, found⟩ := exists_members_of_found whole
  have ends := endsAtFirst_toRule found
  rw [read, found]
  exact ends

theorem error_iff_of_found {fault : Fault} (whole : ∀ field ∈ Field.required, field.isFound record) :
    read record = .error fault ↔ Field.interpreted.findSome? (misread? record) = some fault := by
  rw [(endsAtFirst_of_found whole).error_iff, List.findSome?_map, Function.id_comp]

theorem exists_rule_of_found (whole : ∀ field ∈ Field.required, field.isFound record)
    (clean : Field.interpreted.findSome? (misread? record) = none) :
    ∃ rule truth, read record = .ok rule ∧
      (∀ field, Shows record field (rule.part field)) ∧
      boolean? .visaRequired record = some truth ∧
      (rule.visaRequired ↔ truth.map Char.toLower = "true".toList) := by
  have ends := endsAtFirst_of_found whole
  obtain ⟨rule, found⟩ :=
    ends.exists_ok_iff.mpr (by rwa [List.findSome?_map, Function.id_comp])
  have shows := read_eq_ok_iff.mp found
  obtain ⟨truth, shown, same⟩ := shows .visaRequired
  refine ⟨rule, truth, found, shows, shown, ?_⟩
  have part : isTrue truth = rule.visaRequired := same
  rw [← part, isTrue, beq_iff_eq]

theorem missingField_iff {name : String} :
    read record = .error (.missingField name) ↔
      ∃ field, Field.required.find? (fun other => !other.isFound record) = some field ∧
        field.name = name := by
  constructor
  · intro failed
    cases first : Field.required.find? fun other => !other.isFound record with
    | none =>
        obtain ⟨members, found⟩ := exists_members_of_found (required_find?_eq_none_iff.mp first)
        rw [read, found] at failed
        cases failsWith_toRule members _ failed
    | some field =>
        have missing := (read_eq_missingField_iff.mpr first).symm.trans failed
        exact ⟨field, rfl, Fault.missingField.inj (Except.error.inj missing)⟩
  · rintro ⟨field, first, rfl⟩
    exact read_eq_missingField_iff.mpr first

theorem documents_not_missing : read record ≠ .error (.missingField Field.documents.name) := by
  intro missing
  have first := read_eq_missingField_iff.mp missing
  exact absurd (List.mem_of_find?_eq_some first) (by decide)

theorem unknown?_ne_invalidCount {α : Type} [Vocabulary α] {name token : String} :
    unknown? α text ≠ some (.invalidCount name token) := by
  unfold unknown?
  split <;> simp

theorem name_of_uncounted? {name token : String}
    (uncounted : uncounted? field text = some (.invalidCount name token)) : field.name = name := by
  unfold uncounted? at uncounted
  split at uncounted
  · contradiction
  · cases uncounted
    rfl

/-- Only counts are faulted as counts, each under its own name. -/
theorem name_of_misread? {name token : String}
    (misread : misread? record field = some (.invalidCount name token)) :
    field.name = name ∧ (field = .maxStay ∨ field = .processing) := by
  cases field with
  | destination | passport | purpose | category | kind =>
      obtain ⟨text, _, unknown⟩ := Option.bind_eq_some_iff.mp misread
      exact absurd unknown unknown?_ne_invalidCount
  | documents =>
      obtain ⟨text, _, unknown⟩ := List.exists_of_findSome?_eq_some misread
      exact absurd unknown unknown?_ne_invalidCount
  | visaRequired => contradiction
  | maxStay =>
      obtain ⟨text, _, uncounted⟩ := Option.bind_eq_some_iff.mp misread
      exact ⟨name_of_uncounted? uncounted, .inl rfl⟩
  | processing =>
      obtain ⟨text, _, uncounted⟩ := Option.bind_eq_some_iff.mp misread
      exact ⟨name_of_uncounted? uncounted, .inr rfl⟩

theorem visaRequired_not_misread {token : String} :
    read record ≠ .error (.invalidCount Field.visaRequired.name token) := by
  intro failed
  by_cases whole : ∀ field ∈ Field.required, field.isFound record
  · obtain ⟨field, _, misread⟩ :=
      List.exists_of_findSome?_eq_some ((error_iff_of_found whole).mp failed)
    obtain ⟨same, rfl | rfl⟩ := name_of_misread? misread
    · exact absurd same (by decide)
    · exact absurd same (by decide)
  · rw [← required_find?_eq_none_iff] at whole
    obtain ⟨field, first⟩ := Option.ne_none_iff_exists'.mp whole
    cases (read_eq_missingField_iff.mpr first).symm.trans failed

/-- A record lacks the first required field that is not found in it, whatever else is wrong with
it. If all are found, the first that means nothing is its fault, in another order, in which the
documents have their place before the last count; and if there is none, the record is read as the
rule that it shows. Documents are never missing, and any word will do as a truth value. -/
theorem read_eq_first_fault (record : List Char) :
    (∀ name, read record = .error (.missingField name) ↔
        ∃ field, Field.required.find? (fun other => !other.isFound record) = some field ∧
          field.name = name) ∧
      ((∀ field ∈ Field.required, field.isFound record) →
        (∀ fault, read record = .error fault ↔
          Field.interpreted.findSome? (misread? record) = some fault) ∧
        (Field.interpreted.findSome? (misread? record) = none →
          ∃ rule truth, read record = .ok rule ∧
            (∀ field, Shows record field (rule.part field)) ∧
            boolean? .visaRequired record = some truth ∧
            (rule.visaRequired ↔ truth.map Char.toLower = "true".toList))) ∧
      read record ≠ .error (.missingField Field.documents.name) ∧
      ∀ token, read record ≠ .error (.invalidCount Field.visaRequired.name token) :=
  ⟨fun _ => missingField_iff,
    fun whole => ⟨fun _ => error_iff_of_found whole, exists_rule_of_found whole⟩,
    documents_not_missing, fun _ => visaRequired_not_misread⟩

end Record

end Visa
