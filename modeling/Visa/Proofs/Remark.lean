import Visa.Proofs.Json.Escapes
import Visa.Proofs.Misreading

namespace Visa

/-! Written rules with a remark as their last member. Nothing that stands in a remark is taken for a
member of its own record; but the start of another record may hold what was left of a remark, and
then a remark that ends in the name of a field leads the search for that field astray. -/

open Json.Literal (escaped)
open Json.Value (newline)
open Record (Field Shows ShowsToken items string? valueText)
open Text (PassedBy quotedName)

/-! ## The text of a remarked rule -/

namespace Json.Value

/-- An object gets one more member, placed last. -/
def withMember (value : Value) (name : String) (member : Value) : Value :=
  match value with
  | .object members => .object (members ++ [(name, member)])
  | other => other

end Json.Value

namespace Rule

/-- The rules in the form that rule files have, each with the remark as its last member. -/
def renderRemarked (remark : String) (rules : List Rule) : List Char :=
  (Json.Value.list
    (rules.map fun rule => rule.toJson.withMember "remark" (.string remark))).render

variable (rule : Rule)

def line (field : Field) : List Char := rule.member field ++ ',' :: newline 2

def label : List Char := Json.Literal.write "remark".toList ++ [':', ' ', '"']

/-- What stands between the opening brace and the text of the remark. -/
def heading : List Char := newline 2 ++ (Field.all.flatMap rule.line ++ label)

/-- What stands from the text of the remark on. -/
def finale (remark : List Char) : List Char :=
  remark.flatMap escaped ++ '"' :: (newline 1 ++ ['}'])

theorem write_withMember (remark : String) :
    (rule.toJson.withMember "remark" (.string remark)).write 1 =
      '{' :: (rule.heading ++ finale remark.toList) := by
  have literal : Json.Literal.write remark.toList =
      '"' :: (remark.toList.flatMap escaped ++ ['"']) := rfl
  rw [toJson_eq]
  simp [Field.all, Json.Value.withMember, Json.Value.write, Json.Value.writeMembers,
    Field.write_name, heading, line, member, label, finale, literal]

theorem not_mem_heading {letter : Char} (isForeign : letter ∈ foreign)
    (absent : ∀ field : Field, letter ∉ field.key ++ ':' :: ' ' :: ',' :: label) :
    letter ∉ rule.heading := by
  intro inside
  rcases List.mem_append.mp inside with inLine | inMembers
  · exact not_mem_newline isForeign 2 inLine
  rcases List.mem_append.mp inMembers with inLines | inRemark
  · obtain ⟨field, _, inLine⟩ := List.mem_flatMap.mp inLines
    have inValue := rule.not_mem_value field isForeign
    have inGap := not_mem_newline isForeign 2
    have elsewhere := absent field
    simp only [line, member, List.mem_append, List.mem_cons] at inLine elsewhere
    tauto
  · exact absent .destination (by simp only [List.mem_append, List.mem_cons, inRemark, or_true])

theorem open_not_mem_heading : '{' ∉ rule.heading := rule.not_mem_heading (by decide) (by decide)

theorem close_not_mem_heading : '}' ∉ rule.heading := rule.not_mem_heading (by decide) (by decide)

/-! ## Members in front of the remark -/

variable {rule}
variable {field : Field} {lead rest : List Char}

theorem passedBy_lines (rule : Rule) {fields : List Field} (absent : field ∉ fields) :
    PassedBy field.key (fields.flatMap rule.line) := by
  induction fields with
  | nil => exact fun _ => rfl
  | cons first later ih =>
      obtain ⟨different, others⟩ := not_or.mp (mt List.mem_cons.mpr absent)
      have trailing := (quiet_newline 1).cons ',' (by decide)
      have quiet := (quiet_append_of_subset (List.Subset.refl ((rule.value first).write 2))
        trailing).space.colon
      have passed := quiet.passedBy_key (Ne.symm different)
      rw [List.flatMap_cons]
      exact Text.PassedBy.append (by simpa [line, member] using passed) (ih others)

theorem shows_heading (passed : PassedBy field.key lead) (bounded : rule.excess? = none) :
    Shows (lead ++ '{' :: (rule.heading ++ rest)) field (rule.part field) := by
  obtain ⟨before, after, order, fresh⟩ := List.eq_append_cons_of_mem field.mem_all
  have opening : PassedBy field.key ('{' :: newline 2) := Text.passedBy_of_not_mem _ (by decide)
  have reached := (passed.append opening).append (rule.passedBy_lines fresh)
  have shown : Shows (lead ++ '{' :: newline 2 ++ before.flatMap rule.line ++
      (rule.member field ++ ',' :: (newline 2 ++ (after.flatMap rule.line ++ (label ++ rest)))))
      field (rule.part field) := Record.shows_member reached bounded (.inr (by decide))
  simpa [heading, order, line] using shown

/-- A record that starts with the members of a rule is read as the rule, whatever follows them. -/
theorem read_heading (passed : ∀ field : Field, PassedBy field.key lead)
    (bounded : rule.excess? = none) :
    Record.read (lead ++ '{' :: (rule.heading ++ rest)) = .ok rule :=
  Record.read_eq_ok_iff.mpr fun field => shows_heading (passed field) bounded

end Rule

/-! ## Parts of the text from the remark on -/

namespace Record.Field

/-- The text ends in the name of the field with a quote in front of it. -/
def Ends (field : Field) (text : List Char) : Prop := '"' :: field.name.toList <:+ text

instance (field : Field) (text : List Char) : Decidable (field.Ends text) :=
  inferInstanceAs (Decidable (_ <:+ _))

theorem slash_not_mem (field : Field) : '\\' ∉ field.name.toList := by
  cases field <;> decide

theorem Ends.unique {field other : Field} {text : List Char} (ends : field.Ends text)
    (endsOther : other.Ends text) : field = other := by
  obtain ⟨front, rfl⟩ := ends
  obtain ⟨start, same⟩ := endsOther
  have mirrored := congrArg List.reverse same
  simp only [List.reverse_append, List.reverse_cons, List.append_assoc,
    List.singleton_append] at mirrored
  have names := Text.eq_of_append_cons (by simp [other.quote_not_mem])
    (by simp [field.quote_not_mem]) mirrored
  exact name_injective (String.toList_inj.mp (List.reverse_inj.mp names)).symm

end Record.Field

namespace Rule

variable {field : Field} {remark front piece tail back before after : List Char}

/-- The name of a field that is found there is the end of the remark. -/
theorem ends_of_cutAt (whole : front ++ piece ++ back = finale remark)
    (found : Text.cutAt field.key piece = some (before, after)) :
    field.Ends remark ∧ after ++ back = newline 1 ++ ['}'] := by
  have named : (front ++ before) ++ quotedName field.name.toList ++ (after ++ back) =
      remark.flatMap escaped ++ '"' :: (newline 1 ++ ['}']) := by
    rw [← finale, ← whole, Text.eq_append_of_cutAt found, Field.key_eq]
    simp
  obtain ⟨literal, same⟩ := Json.Literal.eq_of_quotedName field.slash_not_mem (by decide) named
  refine ⟨?_, same⟩
  exact (Json.Literal.suffix_flatMap_escaped_iff field.unescaped.flatMap_escaped
    field.slash_not_mem).mp ⟨front ++ before, literal.symm⟩

theorem valueText_of_infix_finale (inside : piece <:+: finale remark) :
    valueText field piece = none := by
  rw [valueText, Text.after?]
  cases found : Text.cutAt field.key piece with
  | none => rfl
  | some parts =>
      obtain ⟨before, after⟩ := parts
      obtain ⟨front, back, whole⟩ := inside
      have behind := (ends_of_cutAt whole found).2
      have colonFree : ':' ∉ after := by
        intro member
        have inEnd : ':' ∈ newline 1 ++ ['}'] := behind ▸ List.mem_append_left back member
        exact absurd inEnd (by decide)
      exact Text.after?_mark_eq_none colonFree

theorem toOption_read_eq_none {record : List Char}
    (refused : ∀ rule : Rule, ¬Shows record field (rule.part field)) :
    (Record.read record).toOption = none := by
  cases outcome : Record.read record with
  | error reason => rfl
  | ok rule => exact absurd (Record.read_eq_ok_iff.mp outcome field) (refused rule)

theorem toOption_read_of_infix_finale (inside : piece <:+: finale remark) :
    (Record.read piece).toOption = none := by
  refine toOption_read_eq_none fun rule (shown : Shows piece .destination rule.destination) => ?_
  have documents := Record.eq_of_valueText_eq_none (valueText_of_infix_finale inside) shown
  exact absurd documents.1 (by decide)

/-- An end with an opening brace in it reaches back into the remark. -/
theorem exists_of_suffix_finale (isEnd : tail <:+ finale remark) (opened : '{' ∈ tail) :
    ∃ part, part <:+ remark.flatMap escaped ∧ tail = part ++ '"' :: (newline 1 ++ ['}']) := by
  have closing : '"' :: (newline 1 ++ ['}']) <:+ finale remark := List.suffix_append _ _
  rcases List.suffix_or_suffix_of_suffix closing isEnd with within | beyond
  · obtain ⟨part, rfl⟩ := within
    obtain ⟨front, whole⟩ := isEnd
    rw [finale, ← List.append_assoc, List.append_cancel_right_eq] at whole
    exact ⟨part, ⟨front, whole⟩, rfl⟩
  · exact absurd (beyond.subset opened) (by decide)

theorem passedBy_tail (isEnd : tail <:+ finale remark) (opened : '{' ∈ tail)
    (unnamed : ¬field.Ends remark) : PassedBy field.key tail := by
  obtain ⟨part, _, same⟩ := exists_of_suffix_finale isEnd opened
  obtain ⟨front, whole⟩ := isEnd
  have absent : Text.cutAt field.key tail = none := by
    cases found : Text.cutAt field.key tail with
    | none => rfl
    | some parts =>
        have ended := ends_of_cutAt (by rw [List.append_nil, whole]) found
        exact absurd ended.1 unnamed
  have last : tail = (part ++ '"' :: newline 1) ++ ['}'] := by simp [same]
  have marks := field.mark_not_mem '}' (by decide)
  rw [Field.key_eq, quotedName] at absent ⊢
  rw [last] at absent ⊢
  exact Text.passedBy_of_cutAt_eq_none absent (by simp [marks])

theorem after?_tail (isEnd : tail <:+ finale remark) (opened : '{' ∈ tail)
    (named : field.Ends remark) (rest : List Char) :
    Text.after? field.key (tail ++ rest) = some (newline 1 ++ ['}'] ++ rest) := by
  obtain ⟨part, isPart, same⟩ := exists_of_suffix_finale isEnd opened
  have written : '"' :: field.name.toList <:+ remark.flatMap escaped :=
    (Json.Literal.suffix_flatMap_escaped_iff field.unescaped.flatMap_escaped
      field.slash_not_mem).mpr named
  have inPart : '"' :: field.name.toList <:+ part := by
    rcases List.suffix_or_suffix_of_suffix written isPart with within | beyond
    · exact within
    · have inName : '{' ∈ '"' :: field.name.toList := by
        apply beyond.subset
        simpa [same, newline] using opened
      exact absurd inName (by cases field <;> decide)
  obtain ⟨start, rfl⟩ := inPart
  have occurs : field.key <:+: tail :=
    ⟨start, newline 1 ++ ['}'], by simp [same, Field.key_eq, quotedName]⟩
  cases found : Text.cutAt field.key tail with
  | none => exact absurd occurs (Text.cutAt_eq_none_iff.mp found)
  | some parts =>
      obtain ⟨before, after⟩ := parts
      obtain ⟨front, whole⟩ := isEnd
      obtain ⟨_, behind⟩ := ends_of_cutAt (by rw [List.append_nil, whole]) found
      rw [List.append_nil] at behind
      rw [Field.key_eq, quotedName] at found ⊢
      rw [Text.after?, Text.cutAt_append rest found, behind]
      rfl

/-! ## A record behind the end of a remark -/

/-- What a rule is read as if the name of this field stands in front of its members: the value of
the first member, the destination, is taken for that of the field. -/
def misled (rule : Rule) : Field → Option Rule
  | .destination | .documents => some rule
  | .passport => some { rule with passport := rule.destination }
  | _ => none

variable {rule : Rule} {rest : List Char}

theorem passedBy_separated (isEnd : tail <:+ finale remark) (opened : '{' ∈ tail)
    (unnamed : ¬field.Ends remark) : PassedBy field.key (tail ++ separator) :=
  (passedBy_tail isEnd opened unnamed).append (Text.passedBy_of_not_mem _ (by decide))

theorem valueText_separated (rule : Rule) (rest : List Char) (isEnd : tail <:+ finale remark)
    (opened : '{' ∈ tail) (named : field.Ends remark) :
    valueText field (tail ++ separator ++ '{' :: (rule.heading ++ rest)) =
      some (' ' :: ((rule.value .destination).write 2 ++ ',' :: (newline 2 ++
        (Field.destination.following.flatMap rule.line ++ (label ++ rest))))) := by
  have free : ':' ∉ newline 1 ++ ['}'] ++ separator ++ '{' :: newline 2 ++ Field.destination.key :=
    by decide
  have found := Text.after?_mark (' ' :: ((rule.value .destination).write 2 ++ ',' :: (newline 2 ++
        (Field.destination.following.flatMap rule.line ++ (label ++ rest))))) free
  rw [List.append_assoc, valueText, after?_tail isEnd opened named, Option.bind_some, ← found]
  simp [heading, Field.all, Field.following, line, member]

theorem bracket_not_mem_token {α : Type} [Vocabulary α] [Vocabulary.Capital α] (member : α) :
    '[' ∉ (Json.Value.string (Vocabulary.token member)).write 2 := by
  have outside : '[' ∉ (Vocabulary.token member).toList :=
    (Vocabulary.Capital.capital member).not_mem (by decide)
  rw [write_token]
  simp [quotedName, outside]

theorem bracket_not_mem_value (rule : Rule) (different : field ≠ .documents) :
    '[' ∉ (rule.value field).write 2 := by
  cases field with
  | destination | passport | purpose | category | kind => exact bracket_not_mem_token _
  | maxStay | processing => exact not_mem_digits (by decide) _
  | visaRequired =>
      rw [value, write_bool]
      cases rule.visaRequired <;> decide
  | documents => exact absurd rfl different

theorem bracket_not_mem_lines {fields : List Field} (absent : .documents ∉ fields) :
    '[' ∉ fields.flatMap rule.line := by
  intro inside
  obtain ⟨field, inFields, inLine⟩ := List.mem_flatMap.mp inside
  have different : field ≠ .documents := fun same => absent (same ▸ inFields)
  have inValue := rule.bracket_not_mem_value different
  have inKey : '[' ∉ field.key ++ ':' :: ' ' :: ',' :: newline 2 := by cases field <;> decide
  simp only [line, member, List.mem_append, List.mem_cons] at inLine inKey
  tauto

theorem shows_documents_separated (rule : Rule) (rest : List Char)
    (isEnd : tail <:+ finale remark) (opened : '{' ∈ tail) (named : Field.documents.Ends remark) :
    Shows (tail ++ separator ++ '{' :: (rule.heading ++ rest)) .documents rule.documents := by
  obtain ⟨between, after, order, fresh⟩ :=
    List.eq_append_cons_of_mem (by decide : Field.documents ∈ Field.destination.following)
  have found : valueText .documents (tail ++ separator ++ '{' :: (rule.heading ++ rest)) =
      some ((' ' :: (rule.value .destination).write 2 ++ ',' :: (newline 2 ++
        (between.flatMap rule.line ++ (Field.documents.key ++ [':', ' '])))) ++
        '[' :: (listing rule.documents ++ ']' :: (',' :: newline 2 ++
          (after.flatMap rule.line ++ (label ++ rest))))) := by
    have listed : (rule.value .documents).write 2 = '[' :: (listing rule.documents ++ [']']) :=
      write_tokens rule.documents
    rw [valueText_separated rule rest isEnd opened named, order, List.flatMap_append,
      List.flatMap_cons, line, member, listed]
    simp
  have inDestination := rule.bracket_not_mem_value (by decide : Field.destination ≠ .documents)
  have inLines : '[' ∉ between.flatMap rule.line := bracket_not_mem_lines fresh
  have inKey : '[' ∉ Field.documents.key := by decide
  have inLine : '[' ∉ newline 2 := by decide
  exact Record.items_of_listing _ found (by simp [inDestination, inLines, inKey, inLine])

theorem not_shows_of_misled {record : List Char} (lost : rule.misled field = none) (other : Rule)
    (found : valueText field record =
      some (' ' :: ((rule.value .destination).write 2 ++ ',' :: rest))) :
    ¬Shows record field (other.part field) := by
  intro shown
  rw [value] at found
  cases field with
  | destination | documents | passport => contradiction
  | purpose | category | kind =>
      have destination := Record.showsToken_of_written found
      exact absurd (destination.token_eq shown) (Vocabulary.token_ne_of_all (by decide) _ _)
  | maxStay | processing =>
      obtain ⟨text, counted, _⟩ := shown
      rw [write_token] at found
      have nothing : Record.count? _ record = none :=
        Record.run?_eq_none found (by decide) (by decide)
      cases nothing.symm.trans counted
  | visaRequired =>
      obtain ⟨text, word, _⟩ := shown
      rw [write_token] at found
      have nothing : Record.boolean? _ record = none :=
        Record.run?_eq_none found (by decide) (by decide)
      cases nothing.symm.trans word

theorem part_of_misled {other : Rule} {shown : Field} (kept : rule.misled field = some other)
    (apart : shown ≠ field) : other.part shown = rule.part shown := by
  cases field with
  | destination | documents =>
      cases kept
      rfl
  | passport =>
      cases kept
      cases shown with
      | passport => contradiction
      | _ => rfl
  | _ => contradiction

theorem shows_of_misled {other : Rule} (rest : List Char) (bounded : rule.excess? = none)
    (isEnd : tail <:+ finale remark) (opened : '{' ∈ tail) (named : field.Ends remark)
    (kept : rule.misled field = some other) (shown : Field) :
    Shows (tail ++ separator ++ '{' :: (rule.heading ++ rest)) shown (other.part shown) := by
  by_cases apart : shown = field
  · subst apart
    have found := valueText_separated rule rest isEnd opened named
    cases shown with
    | destination | passport =>
        cases kept
        exact Record.showsToken_of_written (α := Country) found
    | documents =>
        cases kept
        exact shows_documents_separated rule rest isEnd opened named
    | _ => contradiction
  · have unnamed : ¬shown.Ends remark := fun ends => apart (ends.unique named)
    rw [part_of_misled kept apart]
    exact shows_heading (passedBy_separated isEnd opened unnamed) bounded

/-- The first field of the record behind gives its value to the field that the remark names. -/
theorem toOption_read_misled (rest : List Char) (bounded : rule.excess? = none)
    (isEnd : tail <:+ finale remark) (opened : '{' ∈ tail) (named : field.Ends remark) :
    (Record.read (tail ++ separator ++ '{' :: (rule.heading ++ rest))).toOption =
      rule.misled field := by
  cases outcome : rule.misled field with
  | none =>
      exact toOption_read_eq_none fun other => not_shows_of_misled outcome other
        (valueText_separated rule rest isEnd opened named)
  | some other =>
      rw [Record.read_eq_ok_iff.mpr (shows_of_misled rest bounded isEnd opened named outcome)]
      rfl

end Rule

end Visa
