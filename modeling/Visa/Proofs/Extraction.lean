import Mathlib.Data.List.Forall2
import Visa.Proofs.Layout

namespace Visa

/-! What a record shows for each field. A record is read as a rule if and only if it shows every
part of the rule, and what it shows for a field depends on nothing but the text from the name of
the field to the end of the value. -/

open Record (Field)

theorem Rule.eq_of_part {left right : Rule} (same : ∀ field, left.part field = right.part field) :
    left = right := by
  obtain ⟨⟨_, _, _⟩, _, _, _, _, _, _⟩ := left
  obtain ⟨⟨_, _, _⟩, _, _, _, _, _, _⟩ := right
  have destination := same .destination
  have passport := same .passport
  have purpose := same .purpose
  have maxStay := same .maxStay
  have visaRequired := same .visaRequired
  have category := same .category
  have kind := same .kind
  have documents := same .documents
  have processing := same .processing
  simp only [Rule.part] at *
  subst_vars
  rfl

theorem Vocabulary.read_eq_ok_iff {α : Type} [Vocabulary α] {text : String} {member : α} :
    read text = .ok member ↔ text = token member := by
  constructor
  · exact eq_token_of_read
  · rintro rfl
    exact read_token member

theorem Vocabulary.mapM_read_eq_ok_iff {α : Type} [Vocabulary α] {texts : List String}
    {members : List α} : texts.mapM read = .ok members ↔ texts = members.map token := by
  simp only [Outcome.mapM_eq_ok_iff, Vocabulary.read_eq_ok_iff]
  rw [← List.forall₂_eq_eq_eq, List.forall₂_map_right_iff]

namespace Record

/-! ## Readings -/

section Readings

variable {record : List Char} {field : Field}

theorem required_eq_ok_iff {α : Type} {found : Option α} {value : α} :
    required field found = .ok value ↔ found = some value := by
  cases found <;> simp [required]

theorem requiredString_eq_ok_iff {text : String} :
    requiredString field record = .ok text ↔ string? field record = some text.toList := by
  rw [requiredString, Outcome.map_eq_ok_iff]
  constructor
  · rintro ⟨found, known, rfl⟩
    rw [required_eq_ok_iff.mp known, String.toList_ofList]
  · intro found
    exact ⟨text.toList, required_eq_ok_iff.mpr found, String.ofList_toList⟩

theorem dayCount_eq_ok_iff {text : List Char} {count : UInt32} :
    dayCount field text = .ok count ↔ DayCount.ofRecord? text = some count := by
  unfold dayCount
  cases DayCount.ofRecord? text <;> simp

def ShowsToken {α : Type} [Vocabulary α] (field : Field) (record : List Char) (member : α) : Prop :=
  string? field record = some (Vocabulary.token member).toList

def ShowsCount (field : Field) (record : List Char) (count : UInt32) : Prop :=
  ∃ text, count? field record = some text ∧ DayCount.ofRecord? text = some count

/-- The record gives the field this content. -/
def Shows (record : List Char) : (field : Field) → field.Content → Prop
  | .destination => ShowsToken (α := Country) .destination record
  | .passport => ShowsToken (α := Country) .passport record
  | .purpose => ShowsToken (α := Purpose) .purpose record
  | .maxStay => ShowsCount .maxStay record
  | .visaRequired => fun truth =>
      ∃ text, boolean? .visaRequired record = some text ∧ isTrue text = truth
  | .category => ShowsToken (α := Category) .category record
  | .kind => ShowsToken (α := Kind) .kind record
  | .documents => fun documents =>
      items .documents record =
        documents.map fun document => (Vocabulary.token document).toList
  | .processing => ShowsCount .processing record

theorem ShowsToken.unique {α : Type} [Vocabulary α] {left right : α}
    (first : ShowsToken field record left) (second : ShowsToken field record right) :
    left = right := by
  have same := Option.some.inj (first.symm.trans second)
  exact Vocabulary.token_injective (String.toList_inj.mp same)

theorem ShowsCount.unique {left right : UInt32} (first : ShowsCount field record left)
    (second : ShowsCount field record right) : left = right := by
  obtain ⟨text, found, value⟩ := first
  obtain ⟨other, foundOther, valueOther⟩ := second
  cases found.symm.trans foundOther
  exact Option.some.inj (value.symm.trans valueOther)

theorem Shows.unique {left right : field.Content} (first : Shows record field left)
    (second : Shows record field right) : left = right := by
  cases field with
  | destination => exact ShowsToken.unique (α := Country) first second
  | passport => exact ShowsToken.unique (α := Country) first second
  | purpose => exact ShowsToken.unique (α := Purpose) first second
  | category => exact ShowsToken.unique (α := Category) first second
  | kind => exact ShowsToken.unique (α := Kind) first second
  | maxStay => exact ShowsCount.unique first second
  | processing => exact ShowsCount.unique first second
  | visaRequired =>
      obtain ⟨text, found, rfl⟩ := first
      obtain ⟨other, foundOther, rfl⟩ := second
      cases found.symm.trans foundOther
      rfl
  | documents =>
      have injective : Function.Injective fun document : Document =>
          (Vocabulary.token document).toList := fun _ _ same =>
        Vocabulary.token_injective (String.toList_inj.mp same)
      exact List.map_injective_iff.mpr injective (first.symm.trans second)

theorem shows_of_toRule {members : Members} {rule : Rule}
    (found : Record.members record = .ok members) (interpreted : members.toRule = .ok rule)
    (field : Field) : Shows record field (rule.part field) := by
  simp only [Record.members, Outcome.bind_eq_ok_iff, requiredString_eq_ok_iff,
    required_eq_ok_iff] at found
  obtain ⟨destination, foundDestination, passport, foundPassport, purpose, foundPurpose, maxStay,
    foundMaxStay, visaRequired, foundVisaRequired, category, foundCategory, kind, foundKind,
    processing, foundProcessing, same⟩ := found
  cases same
  simp only [Members.toRule, Outcome.bind_eq_ok_iff, Vocabulary.read_eq_ok_iff,
    Vocabulary.mapM_read_eq_ok_iff, dayCount_eq_ok_iff] at interpreted
  obtain ⟨_, rfl, _, rfl, _, rfl, stay, isStay, _, rfl, _, rfl, documents, listed, days, isDays,
    same⟩ := interpreted
  cases same
  cases field with
  | destination => exact foundDestination
  | passport => exact foundPassport
  | purpose => exact foundPurpose
  | maxStay => exact ⟨maxStay, foundMaxStay, isStay⟩
  | visaRequired => exact ⟨visaRequired, foundVisaRequired, rfl⟩
  | category => exact foundCategory
  | kind => exact foundKind
  | processing => exact ⟨processing, foundProcessing, isDays⟩
  | documents =>
      have texts := congrArg (List.map String.toList) listed
      have shown : items .documents record =
          documents.map fun document => (Vocabulary.token document).toList := by
        simpa [Function.comp_def] using texts
      exact shown

/-- A record is read as a rule if it shows the parts of the rule, and only then. -/
theorem read_eq_ok_iff {rule : Rule} :
    Record.read record = .ok rule ↔ ∀ field, Shows record field (rule.part field) := by
  rw [Record.read, Outcome.bind_eq_ok_iff]
  constructor
  · rintro ⟨members, found, interpreted⟩
    exact shows_of_toRule found interpreted
  · intro shows
    obtain ⟨maxStay, foundMaxStay, isStay⟩ := shows .maxStay
    obtain ⟨visaRequired, foundVisaRequired, isTruth⟩ := shows .visaRequired
    obtain ⟨processing, foundProcessing, isDays⟩ := shows .processing
    have shown : items .documents record =
        rule.documents.map fun document => (Vocabulary.token document).toList := shows .documents
    have listed : (items .documents record).map String.ofList =
        rule.documents.map Vocabulary.token := by
      simp [shown, Function.comp_def]
    refine ⟨⟨Vocabulary.token rule.destination, Vocabulary.token rule.passport,
      Vocabulary.token rule.purpose, maxStay, visaRequired, Vocabulary.token rule.category,
      Vocabulary.token rule.kind, rule.documents.map Vocabulary.token, processing⟩, ?_, ?_⟩
    · simp only [Record.members, Outcome.bind_eq_ok_iff, requiredString_eq_ok_iff,
        required_eq_ok_iff]
      exact ⟨_, shows .destination, _, shows .passport, _, shows .purpose, _, foundMaxStay, _,
        foundVisaRequired, _, shows .category, _, shows .kind, _, foundProcessing,
        by rw [listed]; rfl⟩
    · simp only [Members.toRule, Outcome.bind_eq_ok_iff, Vocabulary.read_eq_ok_iff,
        Vocabulary.mapM_read_eq_ok_iff, dayCount_eq_ok_iff]
      exact ⟨_, rfl, _, rfl, _, rfl, _, isStay, _, rfl, _, rfl, _, rfl, _, isDays,
        by rw [isTruth]; rfl⟩

end Readings

/-! ## Places -/

section Places

open Json.Token (AllSpace isSpace marks)
open Text (PassedBy quotedName)

variable {record lead gap rest : List Char} {field : Field} {mark : Char}

theorem valueText_behind (gap rest : List Char) (passed : PassedBy field.key lead)
    (free : ':' ∉ gap) :
    valueText field (lead ++ (field.key ++ (gap ++ ':' :: rest))) = some rest := by
  rw [valueText, passed, Field.key_eq, quotedName, Text.after?_append]
  exact Text.after?_mark rest free

theorem valueText_without_colon (passed : PassedBy field.key lead) (free : ':' ∉ rest) :
    valueText field (lead ++ (field.key ++ rest)) = none := by
  rw [valueText, passed, Field.key_eq, quotedName, Text.after?_append]
  exact Text.after?_mark_eq_none free

theorem valueText_of_passed (passed : PassedBy field.key record) :
    valueText field record = none := by
  have nothing := passed []
  rw [List.append_nil] at nothing
  rw [valueText, nothing]
  rfl

theorem string?_of_literal (gap : List Char) {inside : List Char}
    (found : valueText field record = some (gap ++ '"' :: (inside ++ '"' :: rest)))
    (gapFree : '"' ∉ gap) (insideFree : '"' ∉ inside) :
    string? field record = some (Text.trim inside) := by
  have opened := Text.after?_mark (inside ++ '"' :: rest) gapFree
  have closed := Text.before?_mark rest insideFree
  simp [string?, found, opened, closed]

theorem items_of_unopened (found : valueText field record = some rest) (free : '[' ∉ rest) :
    items field record = [] := by
  simp [items, found, Text.after?_mark_eq_none free]

theorem items_of_unclosed (gap : List Char)
    (found : valueText field record = some (gap ++ '[' :: rest))
    (gapFree : '[' ∉ gap) (free : ']' ∉ rest) : items field record = [] := by
  simp [items, found, Text.after?_mark rest gapFree, Text.before?_mark_eq_none free]

theorem takeWhile_cons_eq_nil {accepts : Char → Bool}
    (refused : ∀ letter, isSpace letter ∨ letter ∈ marks → accepts letter = false)
    (ended : isSpace mark ∨ mark ∈ marks) : (mark :: rest).takeWhile accepts = [] :=
  List.takeWhile_cons_of_neg (by simp [refused mark ended])

/-! ## What a written member shows -/

theorem allSpace_singleton : AllSpace [' '] := by simp [AllSpace, isSpace]

theorem showsToken_of_valueText {α : Type} [Vocabulary α] [Vocabulary.Capital α] {member : α}
    (gap : List Char)
    (found : valueText field record =
      some (gap ++ (quotedName (Vocabulary.token member).toList ++ rest)))
    (gapFree : '"' ∉ gap) : ShowsToken field record member := by
  have capital := Vocabulary.Capital.capital member
  have shown : string? field record = some (Text.trim (Vocabulary.token member).toList) :=
    string?_of_literal gap (by simpa [quotedName] using found) gapFree
      (capital.not_mem (by decide))
  rwa [capital.trim] at shown

theorem showsToken_of_written {α : Type} [Vocabulary α] [Vocabulary.Capital α] {member : α}
    (found : valueText field record =
      some (' ' :: ((Json.Value.string (Vocabulary.token member)).write 2 ++ rest))) :
    ShowsToken field record member := by
  rw [Rule.write_token] at found
  exact showsToken_of_valueText [' '] found (by simp)

theorem showsCount_of_valueText {count : UInt32} (small : count.toNat ≤ DayCount.recordLimit)
    (found : valueText field record = some (' ' :: (Nat.toDigits 10 count.toNat ++ mark :: rest)))
    (ended : isSpace mark ∨ mark ∈ marks) : ShowsCount field record count := by
  refine ⟨Nat.toDigits 10 count.toNat, ?_, ?_⟩
  · exact count?_of_digits [' '] found allSpace_singleton
      (takeWhile_cons_eq_nil isCountLetter_refused ended)
  · rw [DayCount.ofRecord?_toDigits, DayCount.upTo, if_pos small, UInt32.ofNat_toNat]

theorem itemsOf_listing (documents : List Document) :
    itemsOf (Rule.listing documents) =
      documents.map fun document => (Vocabulary.token document).toList := by
  have item (document : Document) (trail : List Char) (blank : AllSpace trail) :
      itemsOf (Json.Value.newline 3 ++ Rule.quoted document ++ trail) =
        [(Vocabulary.token document).toList] := by
    have capital := Vocabulary.Capital.capital document
    have whole := itemsOf_literal (Json.Value.allSpace_newline 3) capital.nonempty
      (capital.not_mem (by decide)) blank
    simpa [Rule.quoted, quotedName] using whole
  induction documents with
  | nil => rfl
  | cons first rest ih =>
      cases rest with
      | nil => exact item first _ (Json.Value.allSpace_newline 2)
      | cons next rest =>
          have alone := item first [] .nil
          rw [List.append_nil] at alone
          rw [Rule.listing, itemsOf_append_comma, alone, ih]
          rfl

theorem items_of_listing {documents : List Document} (gap : List Char)
    (found : valueText field record = some (gap ++ '[' :: (Rule.listing documents ++ ']' :: rest)))
    (gapFree : '[' ∉ gap) :
    items field record = documents.map fun document => (Vocabulary.token document).toList := by
  have free : ']' ∉ Rule.listing documents := fun inside =>
    absurd (Rule.isListed_of_mem_listing inside) (by decide)
  have opened := Text.after?_mark (Rule.listing documents ++ ']' :: rest) gapFree
  have closed := Text.before?_mark rest free
  rw [items_of_valueText found opened closed, itemsOf_listing]

variable {rule : Rule}

/-- A member that the search for its name reaches shows the part of the rule, whatever stands in
front of it and behind. -/
theorem shows_member (passed : PassedBy field.key lead) (bounded : rule.excess? = none)
    (ended : isSpace mark ∨ mark ∈ marks) :
    Shows (lead ++ (rule.member field ++ mark :: rest)) field (rule.part field) := by
  obtain ⟨smallStay, smallProcessing⟩ := Rule.excess?_eq_none_iff.mp bounded
  have found : valueText field (lead ++ (rule.member field ++ mark :: rest)) =
      some (' ' :: ((rule.value field).write 2 ++ mark :: rest)) := by
    have behind := valueText_behind [] (' ' :: ((rule.value field).write 2 ++ mark :: rest))
      passed List.not_mem_nil
    simpa [Rule.member] using behind
  generalize lead ++ (rule.member field ++ mark :: rest) = record at found
  cases field with
  | destination | passport | purpose | category | kind => exact showsToken_of_written found
  | maxStay => exact showsCount_of_valueText smallStay found ended
  | processing => exact showsCount_of_valueText smallProcessing found ended
  | visaRequired =>
      rw [Rule.value, Rule.write_bool] at found
      exact ⟨_, boolean?_of_word [' '] found allSpace_singleton
        (takeWhile_cons_eq_nil isAlphabetic_refused ended), isTrue_boolText _⟩
  | documents =>
      rw [Rule.value, Rule.write_tokens] at found
      simp only [List.cons_append, List.append_assoc, List.nil_append] at found
      exact items_of_listing [' '] found (by decide)

end Places

end Record

end Visa
