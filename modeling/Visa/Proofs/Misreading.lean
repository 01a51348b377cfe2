import Visa.Proofs.Damage
import Visa.Proofs.Refusal

namespace Visa

/-! What a record is read as that has lost a structural character. Most damage leaves a field with
nothing, or with a text that is no token; the exceptions are the documents, which are never missing,
and the destination, which has the same vocabulary as the member behind it. -/

open Json.Value (newline)
open Record (Field Shows ShowsToken boolean? count? items valueText)
open Text (PassedBy)

namespace Record.Field

/-- The quoted name of a member and the colon behind it. -/
def label (field : Field) : List Char := field.key ++ [':']

/-- The character stands in the label of the field. -/
def Labels (field : Field) (front : List Char) (letter : Char) (back : List Char) : Prop :=
  ∃ left right, field.label = left ++ letter :: right ∧ left <:+ front ∧ right <+: back

theorem Labels.within {field : Field} {front back : List Char} {letter : Char}
    (labels : Labels field front letter back) (lead rest : List Char) :
    Labels field (lead ++ front) letter (back ++ rest) := by
  obtain ⟨left, right, written, before, after⟩ := labels
  exact ⟨left, right, written, before.trans (List.suffix_append _ _),
    after.trans (List.prefix_append _ _)⟩

theorem labels_opening (field : Field) (rest : List Char) :
    field.Labels [] '"' (field.name.toList ++ '"' :: ':' :: rest) :=
  ⟨[], field.name.toList ++ ['"', ':'], by simp [label, key], List.nil_suffix, rest, by simp⟩

theorem labels_closing (field : Field) (rest : List Char) :
    field.Labels ('"' :: field.name.toList) '"' (':' :: rest) :=
  ⟨'"' :: field.name.toList, [':'], by simp [label, key], List.suffix_rfl, rest, rfl⟩

theorem labels_colon (field : Field) (rest : List Char) : field.Labels field.key ':' rest :=
  ⟨field.key, [], rfl, List.suffix_rfl, List.nil_prefix⟩

end Record.Field

theorem Vocabulary.token_ne_of_all {α β : Type} [Vocabulary α] [Vocabulary β]
    (apart : all.all fun left : α => all.all fun right : β => token left != token right)
    (left : α) (right : β) : token left ≠ token right := by
  have row := List.all_eq_true.mp apart left (mem_all left)
  simpa using List.all_eq_true.mp row right (mem_all right)

namespace Rule

variable {rule other : Rule} {field : Field} {left right : List Char} {letter : Char}
  {before after : List Field}

/-! ## A label without its colon -/

theorem colon_not_mem_behind : ':' ∉ rule.behind field := by
  have inValue : ':' ∉ (rule.value field).write 2 := rule.not_mem_value field (by decide)
  have inTrailer : ':' ∉ field.trailer := by cases field <;> decide
  simp [behind, inValue, inTrailer]

/-- The search for the colon goes on to the next member. -/
theorem valueText_of_colon_missing (rule : Rule) {lead : List Char}
    (passed : PassedBy field.key lead) :
    valueText field (lead ++ (field.key ++ (rule.behind field ++ rule.trailing field.following))) =
      field.next?.map fun next =>
        ' ' :: ((rule.value next).write 2 ++ (next.trailer ++ rule.trailing next.following)) := by
  rw [field.following_eq]
  cases field.next? with
  | none =>
      have free : ':' ∉ rule.behind field ++ rule.trailing [] := by
        simp [trailing, colon_not_mem_behind]
      exact Record.valueText_without_colon passed free
  | some next =>
      have keyFree : ':' ∉ next.key := by cases next <;> decide
      have free : ':' ∉ rule.behind field ++ next.key := by
        simp [keyFree, colon_not_mem_behind]
      have found := Record.valueText_behind _ (rule.behind next ++ rule.trailing next.following)
        passed free
      simpa [trailing_cons, behind] using found

theorem quote_not_mem_digits (count : Nat) : '"' ∉ Nat.toDigits 10 count :=
  not_mem_digits (by decide) count

/-- The kinds of visas are no documents, nor are they names of fields. -/
theorem not_showsToken_of_documents {record : List Char} {kind : Kind}
    (found : valueText .kind record = some (' ' :: ((rule.value .documents).write 2 ++
      (Field.documents.trailer ++ rule.trailing [.processing])))) :
    ¬ShowsToken .kind record kind := by
  intro shown
  rw [value, write_tokens] at found
  cases listed : rule.documents with
  | nil =>
      rw [listed] at found
      exact Record.not_showsToken_of_name ([' ', '[', ']'] ++ Field.documents.trailer) .processing
        (by simpa [trailing_cons, listing] using found) (by decide) shown
  | cons first rest =>
      rw [listed, listing_cons] at found
      have document : ShowsToken .kind record first :=
        Record.showsToken_of_valueText (' ' :: '[' :: newline 3)
          (by simpa [quoted] using found) (by decide)
      exact absurd (document.token_eq shown) (Vocabulary.token_ne_of_all (by decide) _ _)

theorem part_of_colon_missing {record : List Char}
    (found : valueText field record = field.next?.map fun next =>
      ' ' :: ((rule.value next).write 2 ++ (next.trailer ++ rule.trailing next.following)))
    (shown : Shows record field (other.part field)) :
    field = .documents ∧ other.documents = [] ∨
      field = .destination ∧ other.destination = rule.passport := by
  cases field with
  | destination =>
      have passport : ShowsToken .destination record rule.passport :=
        Record.showsToken_of_written found
      exact .inr ⟨rfl, ShowsToken.unique (α := Country) shown passport⟩
  | passport =>
      have purpose : ShowsToken .passport record rule.purpose :=
        Record.showsToken_of_written found
      exact absurd (purpose.token_eq shown) (Vocabulary.token_ne_of_all (by decide) _ _)
  | purpose =>
      rw [Field.next?, Option.map_some, value, Json.Value.write, Field.following_eq, Field.next?,
        Option.elim_some, trailing_cons] at found
      refine absurd shown (Record.not_showsToken_of_name
        (' ' :: (Nat.toDigits 10 rule.maxStay.toNat ++ Field.maxStay.trailer)) .visaRequired
        (by simpa using found) ?_)
      simp [quote_not_mem_digits, Field.trailer, newline]
  | maxStay =>
      obtain ⟨text, counted, _⟩ := shown
      rw [Field.next?, Option.map_some, value] at found
      generalize rule.visaRequired = truth at found
      have nothing : count? .maxStay record = none := by
        cases truth with
        | false => exact Record.run?_eq_none found (by decide) (by decide)
        | true => exact Record.run?_eq_none found (by decide) (by decide)
      cases nothing.symm.trans counted
  | visaRequired =>
      obtain ⟨text, word, _⟩ := shown
      rw [Field.next?, Option.map_some, value, write_token] at found
      have nothing : boolean? .visaRequired record = none :=
        Record.run?_eq_none found (by decide) (by decide)
      cases nothing.symm.trans word
  | category =>
      have kind : ShowsToken .category record rule.kind := Record.showsToken_of_written found
      exact absurd (kind.token_eq shown) (Vocabulary.token_ne_of_all (by decide) _ _)
  | kind => exact absurd shown (not_showsToken_of_documents found)
  | documents =>
      rw [Field.next?, Option.map_some, value, Json.Value.write] at found
      have digits : '[' ∉ Nat.toDigits 10 rule.processing.toNat := not_mem_digits (by decide) _
      have last : Field.processing.following = [] := rfl
      have nothing : items .documents record = [] := by
        refine Record.items_of_unopened found ?_
        simp [digits, last, Field.trailer, newline, trailing]
      exact .inl ⟨rfl, Record.documents_eq_nil nothing shown⟩
  | processing =>
      exact absurd (Record.eq_of_valueText_eq_none found shown).1 (by decide)

/-! ## A damaged value -/

theorem not_mem_processing {mark : Char} (notDigit : mark.isDigit = false)
    (absent : mark ∉ Field.processing.key ++ ':' :: ' ' :: (Field.processing.trailer ++ ['}'])) :
    mark ∉ rule.trailing [.processing] := by
  have digits := not_mem_digits notDigit rule.processing.toNat
  simp only [trailing, segment_eq, behind, value, Json.Value.write, List.flatMap_cons,
    List.flatMap_nil, List.append_nil, List.mem_append, List.mem_cons] at absent ⊢
  tauto

theorem not_shows_of_listing_damaged {record behind : List Char} {documents : List Document}
    (isStructural : letter ∈ structural)
    (written : listing rule.documents = left ++ letter :: right)
    (found : valueText .documents record =
      some ([' '] ++ '[' :: (left ++ right ++ ']' :: behind))) :
    ¬Shows record .documents documents := by
  intro shown
  have free : ']' ∉ left ++ right := fun inside =>
    absurd (isListed_of_mem_listing (subset_of_missing written inside)) (by decide)
  have mark : letter = '"' ∨ letter = ',' := by
    have inListing : isListed letter := isListed_of_mem_listing (by rw [written]; simp)
    have marks : structural.all fun mark => !isListed mark || mark == '"' || mark == ',' := by
      decide
    simpa [inListing] using List.all_eq_true.mp marks letter isStructural
  have listed := Record.items_of_valueText found (Text.after?_mark _ (by decide))
    (Text.before?_mark behind free)
  refine Record.not_bare_of_listing written mark fun item inItems => ?_
  rw [← listed, shown] at inItems
  obtain ⟨document, _, rfl⟩ := List.mem_map.mp inItems
  exact (Vocabulary.Capital.capital document).not_mem (by decide)

theorem documents_of_value_damaged {record : List Char} {documents : List Document}
    (isStructural : letter ∈ structural)
    (written : (rule.value .documents).write 2 = left ++ letter :: right)
    (found : valueText .documents record = some (' ' :: (left ++ (right ++
      (Field.documents.trailer ++ rule.trailing [.processing])))))
    (shown : Shows record .documents documents) :
    documents = [] ∧ (letter = '[' ∨ letter = ']') := by
  have openFree : '[' ∉ listing rule.documents := fun inside =>
    absurd (isListed_of_mem_listing inside) (by decide)
  have closeFree : ']' ∉ listing rule.documents := fun inside =>
    absurd (isListed_of_mem_listing inside) (by decide)
  rw [value, write_tokens] at written
  rcases List.cons_eq_append_iff.mp written with ⟨rfl, opened⟩ | ⟨inside, rfl, listed⟩
  · cases opened
    have nothing : items .documents record = [] := by
      refine Record.items_of_unopened found ?_
      have later : '[' ∉ rule.trailing [.processing] := not_mem_processing (by decide) (by decide)
      simp [openFree, later, Field.trailer, newline]
    exact ⟨Record.documents_eq_nil nothing shown, .inl rfl⟩
  rcases split_append listed with ⟨rest, within, rfl⟩ | ⟨beyond, rfl, last⟩
  · have value : valueText .documents record = some ([' '] ++ '[' :: (inside ++ rest ++ ']' ::
        (Field.documents.trailer ++ rule.trailing [.processing]))) := by
      simpa using found
    exact absurd shown (not_shows_of_listing_damaged isStructural within value)
  · obtain ⟨rfl, rfl, rfl⟩ := split_singleton last
    have nothing : items .documents record = [] := by
      have later : ']' ∉ rule.trailing [.processing] := not_mem_processing (by decide) (by decide)
      refine Record.items_of_unclosed [' '] (by simpa using found) (by decide) ?_
      simp [closeFree, later, Field.trailer, newline]
    exact ⟨Record.documents_eq_nil nothing shown, .inr rfl⟩

theorem part_of_value_damaged {record : List Char} (isStructural : letter ∈ structural)
    (written : (rule.value field).write 2 = left ++ letter :: right)
    (found : valueText field record = some (' ' :: (left ++ (right ++
      (field.trailer ++ rule.trailing field.following)))))
    (shown : Shows record field (other.part field)) :
    field = .documents ∧ other.documents = [] ∧ (letter = '[' ∨ letter = ']') := by
  have inside : letter ∈ (rule.value field).write 2 := by simp [written]
  cases field with
  | destination | passport | purpose | category | kind =>
      rw [value, write_token] at written
      exact absurd shown (Record.not_showsToken_of_damaged written isStructural found)
  | maxStay | processing =>
      rw [value, Json.Value.write] at inside
      exact absurd inside (not_mem_digits (refused_of_mem _ isStructural (by decide)) _)
  | visaRequired =>
      rw [value, write_bool] at inside
      have absent := refused_of_mem (Json.Token.boolText rule.visaRequired).contains isStructural
        (by cases rule.visaRequired <;> decide)
      simp [inside] at absent
  | documents => exact ⟨rfl, documents_of_value_damaged isStructural written found shown⟩

/-! ## The whole record -/

/-- What a record that lost a structural character can be read as instead of its own rule: the
documents are gone if the list has no name or no end, and without a colon of its own the
destination is the country of the passport. -/
inductive Misread (rule : Rule) (front : List Char) (letter : Char) (back : List Char) :
    Rule → Prop
  | undocumented
      (damaged : letter = '[' ∨ letter = ']' ∨ Field.documents.Labels front letter back) :
      Misread rule front letter back { rule with documents := [] }
  | misdirected (colon : letter = ':') (damaged : Field.destination.Labels front letter back) :
      Misread rule front letter back { rule with destination := rule.passport }

theorem Misread.within (misread : Misread rule left letter right other) (lead rest : List Char) :
    Misread rule (lead ++ left) letter (right ++ rest) other := by
  cases misread with
  | undocumented damaged =>
      exact .undocumented (damaged.imp_right (Or.imp_right fun labels => labels.within lead rest))
  | misdirected colon damaged => exact .misdirected colon (damaged.within lead rest)

theorem part_of_break (order : Field.all = before ++ field :: after)
    (broken : Break rule field left letter right) (isStructural : letter ∈ structural)
    (bounded : rule.excess? = none)
    (shown : Shows (rule.leading before ++ (left ++ (right ++ rule.trailing after))) field
      (other.part field)) :
    other.part field = rule.part field ∨
      field = .documents ∧ other.documents = [] ∧
        (letter = '[' ∨ letter = ']' ∨ Field.documents.Labels left letter right) ∨
      field = .destination ∧ other.destination = rule.passport ∧ letter = ':' ∧
        Field.destination.Labels left letter right := by
  obtain ⟨notBefore, notAfter⟩ := Field.not_mem_of_order order
  have passed := rule.passedBy_leading notBefore
  have passedAfter := rule.passedBy_trailing notAfter
  obtain rfl := Field.following_of_order order
  have unnamed (gone : PassedBy field.key (left ++ right)) :
      field = .documents ∧ other.documents = [] := by
    have missing := Record.valueText_of_passed ((passed.append gone).append passedAfter)
    exact Record.eq_of_valueText_eq_none missing (by simpa using shown)
  cases broken with
  | keyOpening =>
      obtain ⟨rfl, nothing⟩ := unnamed (quiet_behind.colon.passedBy_unopened field field)
      exact .inr (.inl ⟨rfl, nothing, .inr (.inr (Field.documents.labels_opening _))⟩)
  | keyClosing =>
      obtain ⟨rfl, nothing⟩ := unnamed (quiet_behind.passedBy_unclosed field field)
      exact .inr (.inl ⟨rfl, nothing, .inr (.inr (Field.documents.labels_closing _))⟩)
  | colon =>
      have found := valueText_of_colon_missing rule passed
      rcases part_of_colon_missing found shown with ⟨rfl, nothing⟩ | ⟨rfl, same⟩
      · exact .inr (.inl ⟨rfl, nothing, .inr (.inr (Field.documents.labels_colon _))⟩)
      · exact .inr (.inr ⟨rfl, same, rfl, Field.destination.labels_colon _⟩)
  | @value front back letter written =>
      have found := Record.valueText_behind [] (' ' :: (front ++ (back ++
        (field.trailer ++ rule.trailing field.following)))) passed List.not_mem_nil
      obtain ⟨rfl, nothing, bracket⟩ := part_of_value_damaged isStructural written found
        (by simpa using shown)
      exact .inr (.inl ⟨rfl, nothing, by tauto⟩)
  | comma followed =>
      have kept : Shows (rule.leading before ++ (rule.member field ++ (newline 2 ++
          rule.trailing field.following))) field (rule.part field) :=
        Record.shows_member passed bounded (.inl rfl)
      exact .inl (shown.unique kept)

theorem misread_of_break (order : Field.all = before ++ field :: after)
    (broken : Break rule field left letter right) (isStructural : letter ∈ structural)
    (bounded : rule.excess? = none)
    (read : Record.read (rule.leading before ++ (left ++ (right ++ rule.trailing after))) =
      .ok other) : other = rule ∨ Misread rule left letter right other := by
  have shows := Record.read_eq_ok_iff.mp read
  have same : ∀ another ≠ field, other.part another = rule.part another := fun _ different =>
    (shows _).unique (shows_others order broken bounded different)
  rcases part_of_break order broken isStructural bounded (shows field) with
    kept | ⟨rfl, nothing, damaged⟩ | ⟨rfl, astray, colon, damaged⟩
  · refine .inl (eq_of_part fun another => ?_)
    by_cases here : another = field
    · exact here ▸ kept
    · exact same another here
  · have found : other = { rule with documents := [] } := by
      apply eq_of_part
      intro another
      cases another with
      | documents => exact nothing
      | _ => exact same _ nofun
    rw [found]
    exact .inr (.undocumented damaged)
  · have found : other = { rule with destination := rule.passport } := by
      apply eq_of_part
      intro another
      cases another with
      | destination => exact astray
      | _ => exact same _ nofun
    rw [found]
    exact .inr (.misdirected colon damaged)

theorem misread_of_inside (bounded : rule.excess? = none) (isStructural : letter ∈ structural)
    (written : rule.inside = left ++ letter :: right)
    (read : Record.read ('{' :: (left ++ right) ++ ['}']) = .ok other) :
    other = rule ∨ Misread rule left letter right other := by
  rcases split_append written with ⟨rest, inLine, _⟩ | ⟨start, rfl, segments⟩
  · exact absurd (by simp [inLine]) (newline_ne isStructural 2)
  obtain ⟨before, field, after, front, back, order, inSegment, rfl, rfl⟩ := split_flatMap segments
  have broken := break_of_segment isStructural inSegment
  have whole : Record.read (rule.leading before ++ (front ++ (back ++ rule.trailing after))) =
      .ok other := by
    simpa [leading, trailing] using read
  refine (misread_of_break order broken isStructural bounded whole).imp_right ?_
  intro misread
  simpa using misread.within (newline 2 ++ before.flatMap rule.segment)
    (after.flatMap rule.segment)

end Rule

namespace Report

variable {rule : Rule} {front back left right : List Char} {letter : Char}

theorem rules_of_list_damaged {lead rest : List Char} (bounded : rule.excess? = none)
    (noOpen : '{' ∉ lead) (noOpenRest : '{' ∉ rest) :
    (ofText (lead ++ (rule.toJson.write 1 ++ rest))).rules = [rule] := by
  have yields := (Record.yields_of_not_mem noOpen).append
    ((rule.yields_write 1).append (Record.yields_of_not_mem noOpenRest))
  exact rules_ofText_of_yields (by simpa using yields) (by simpa using bounded)

theorem rules_of_record_broken (bounded : rule.excess? = none)
    (isStructural : letter ∈ Rule.structural)
    (written : rule.toJson.write 1 = front ++ letter :: back) :
    (ofText (Rule.opening [] ++ (front ++ back ++ Rule.closing []))).rules = [] ∨
      ∃ other, (ofText (Rule.opening [] ++ (front ++ back ++ Rule.closing []))).rules = [other] ∧
        (other = rule ∨ Rule.Misread rule front letter back other) := by
  have noRules : ∀ other ∈ ([] : List Rule), other.excess? = none := by simp
  rcases Rule.cases_of_write_eq written with
    ⟨rfl, rfl⟩ | ⟨rfl, rfl⟩ | ⟨left, right, inside, rfl, rfl⟩
  · exact .inl (rules_of_opening_missing rule noRules noRules)
  · rw [List.append_nil]
    exact .inl (rules_of_closing_missing rule [] noRules)
  · have damaged := rules_of_inside_damaged noRules noRules inside
    rw [List.nil_append, List.append_nil] at damaged
    have text : '{' :: left ++ (right ++ ['}']) = '{' :: (left ++ right) ++ ['}'] := by simp
    rw [text, damaged]
    cases found : Record.read ('{' :: (left ++ right) ++ ['}']) with
    | error reason => exact .inl rfl
    | ok other =>
        refine .inr ⟨other, rfl, ?_⟩
        refine (Rule.misread_of_inside bounded isStructural inside found).imp_right ?_
        exact fun misread => misread.within ['{'] ['}']

/-- A rule that lost a structural character is not read, or it is read as it was written, but for
two misreadings. -/
theorem rules_of_structure_missing
    (bounded : rule.maxStay.toNat ≤ DayCount.recordLimit ∧
      rule.processing.toNat ≤ DayCount.recordLimit)
    (written : Rule.renderAll [rule] = front ++ letter :: back)
    (isStructural : letter ∈ Rule.structural) :
    (ofText (front ++ back)).rules = [] ∨ (ofText (front ++ back)).rules = [rule] ∨
      ∃ other, (ofText (front ++ back)).rules = [other] ∧
        Rule.Misread rule front letter back other := by
  have small := Rule.excess?_eq_none_iff.mpr bounded
  have layout : Rule.renderAll [rule] =
      Rule.opening [] ++ (rule.toJson.write 1 ++ Rule.closing []) :=
    Rule.renderAll_append_cons rule [] []
  have openingFree : '{' ∉ Rule.opening [] := by decide
  have closingFree : '{' ∉ Rule.closing [] := by decide
  rw [layout] at written
  -- The character stands in front of the record, in it or behind it.
  rcases split_append written with ⟨rest, inOpening, rfl⟩ | ⟨start, rfl, within⟩
  · have free : '{' ∉ front ++ rest := fun inside =>
      openingFree (subset_of_missing inOpening inside)
    rw [← List.append_assoc]
    exact .inr (.inl (rules_of_list_damaged small free closingFree))
  rcases split_append within with ⟨rest, inRecord, rfl⟩ | ⟨start, rfl, inClosing⟩
  · have text : Rule.opening [] ++ start ++ (rest ++ Rule.closing []) =
        Rule.opening [] ++ (start ++ rest ++ Rule.closing []) := by simp
    rw [text]
    rcases rules_of_record_broken small isStructural inRecord with
      lost | ⟨other, single, rfl | misread⟩
    · exact .inl lost
    · exact .inr (.inl single)
    · exact .inr (.inr ⟨other, single, misread.within _ _⟩)
  · have free : '{' ∉ start ++ back := fun inside =>
      closingFree (subset_of_missing inClosing inside)
    have text : Rule.opening [] ++ (rule.toJson.write 1 ++ start) ++ back =
        Rule.opening [] ++ (rule.toJson.write 1 ++ (start ++ back)) := by simp
    rw [text]
    exact .inr (.inl (rules_of_list_damaged small openingFree free))

theorem rules_of_structure_missing_comma :
    let rule : Rule :=
      { destination := .japan, passport := .usa, purpose := .tourism, maxStay := 90
        visaRequired := false, category := .visaFree, kind := .none, documents := []
        processing := 0 }
    let front := ("[\n  \x7b\n    \"destination\": \"JAPAN\",\n".toList ++
      "    \"passportCountry\": \"USA\",\n    \"purpose\": \"TOURISM\",\n".toList ++
      "    \"maxStayDays\": 90".toList)
    let back := ("\n    \"visaRequired\": false,\n    \"visaCategory\": \"VISA_FREE\",\n".toList ++
      "    \"visaType\": \"NONE\",\n    \"documents\": [],\n".toList ++
      "    \"processingDays\": 0\n  \x7d\n]".toList)
    Rule.renderAll [rule] = front ++ ',' :: back ∧
      ((ofText (front ++ back)).rules = [] ∨ (ofText (front ++ back)).rules = [rule] ∨
        ∃ other, (ofText (front ++ back)).rules = [other] ∧
          Rule.Misread rule front ',' back other) := by
  intro rule front back
  have written : Rule.renderAll [rule] = front ++ ',' :: back := by decide +kernel
  exact ⟨written, rules_of_structure_missing (by decide) written (by decide)⟩

/-- Both misreadings do occur. -/
theorem rules_misread_without_colon_or_bracket :
    let rule : Rule :=
      { destination := .japan, passport := .usa, purpose := .tourism, maxStay := 90
        visaRequired := false, category := .visaFree, kind := .none, documents := [.passport]
        processing := 0 }
    let label := "[\n  \x7b\n    \"destination\"".toList
    let middle := (" \"JAPAN\",\n    \"passportCountry\": \"USA\",\n".toList ++
      "    \"purpose\": \"TOURISM\",\n    \"maxStayDays\": 90,\n".toList ++
      "    \"visaRequired\": false,\n    \"visaCategory\": \"VISA_FREE\",\n".toList ++
      "    \"visaType\": \"NONE\",\n    \"documents\": ".toList)
    let rest := "\n      \"PASSPORT\"\n    ],\n    \"processingDays\": 0\n  \x7d\n]".toList
    let misdirected := { rule with destination := .usa }
    let undocumented := { rule with documents := [] }
    Rule.renderAll [rule] = label ++ ':' :: (middle ++ '[' :: rest) ∧
      (ofText (label ++ (middle ++ '[' :: rest))).rules = [misdirected] ∧ misdirected ≠ rule ∧
      (ofText (label ++ ':' :: (middle ++ rest))).rules = [undocumented] ∧
      undocumented ≠ rule := by
  decide +kernel

end Report

end Visa
