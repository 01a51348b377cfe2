import Visa.Proofs.Extraction

namespace Visa

/-! A written record with a structural character missing from one of its segments. The search for
the name of any other field goes over what is left of the segment, so the other fields are read as
they were written. -/

open Json.Value (newline)
open Record (Field Shows)
open Text (PassedBy quotedName)

/-! ## Texts that name no field -/

namespace Record

namespace Field

/-- The letters that names of fields start with. -/
def initials : List Char := ['d', 'm', 'p', 'v']

theorem exists_initial (field : Field) :
    ∃ first ∈ initials, ∃ name, field.name.toList = first :: name := by
  have head : field.name.toList.head?.any initials.contains := by cases field <;> decide
  cases letters : field.name.toList with
  | nil => simp [letters] at head
  | cons first name =>
      rw [letters] at head
      exact ⟨first, by simpa using head, name, rfl⟩

theorem foreign_of_initial {letter : Char} (initial : letter ∈ initials) :
    letter ∈ Rule.foreign := by
  have every : initials.all Rule.foreign.contains := by decide
  simpa using List.all_eq_true.mp every letter initial

end Field

/-- No quote of the text opens the name of a field. -/
structure Quiet (text : List Char) : Prop where
  free : ∀ letter ∈ Field.initials, letter ∉ text
  ended : text.getLast? = some ' '

namespace Quiet

variable {text : List Char}

theorem append {lead : List Char} (quiet : Quiet text)
    (free : ∀ letter ∈ Field.initials, letter ∉ lead) : Quiet (lead ++ text) where
  free letter initial inside := by
    rcases List.mem_append.mp inside with inLead | inText
    · exact free letter initial inLead
    · exact quiet.free letter initial inText
  ended := by simp [quiet.ended]

theorem cons (letter : Char) (quiet : Quiet text) (plain : letter ∉ Field.initials) :
    Quiet (letter :: text) := by
  have free : ∀ other ∈ Field.initials, other ∉ [letter] := by
    intro other initial same
    cases List.mem_singleton.mp same
    exact plain initial
  exact quiet.append free

theorem quote (quiet : Quiet text) : Quiet ('"' :: text) := quiet.cons '"' (by decide)

theorem colon (quiet : Quiet text) : Quiet (':' :: text) := quiet.cons ':' (by decide)

theorem space (quiet : Quiet text) : Quiet (' ' :: text) := quiet.cons ' ' (by decide)

theorem passedBy (quiet : Quiet text) (field : Field) : PassedBy field.key text := by
  obtain ⟨first, initial, name, letters⟩ := field.exists_initial
  obtain ⟨front, rfl⟩ := List.getLast?_eq_some_iff.mp quiet.ended
  have plain : ' ' ∉ field.key := by cases field <;> decide
  rw [Field.key_eq, letters] at plain ⊢
  exact Text.passedBy_concat (fun inside =>
    quiet.free first initial (List.mem_append_left _ inside)) plain

variable {field other : Field}

theorem passedBy_key (quiet : Quiet text) (different : other ≠ field) :
    PassedBy field.key (other.key ++ text) := by
  intro rest
  have names : other.name.toList ≠ field.name.toList := fun same =>
    different (Field.name_injective (String.toList_inj.mp same))
  have skipped := Text.after?_quotedName_of_ne (text ++ rest) field.quote_not_mem
    other.quote_not_mem names
  have passed := quiet.quote.passedBy field rest
  simpa [Field.key_eq, quotedName] using skipped.trans passed

theorem passedBy_unopened (quiet : Quiet text) (field other : Field) :
    PassedBy field.key (other.name.toList ++ '"' :: text) :=
  (Text.passedBy_of_not_mem _ other.quote_not_mem).append (quiet.quote.passedBy field)

theorem passedBy_unclosed (quiet : Quiet text) (field other : Field) :
    PassedBy field.key ('"' :: (other.name.toList ++ ':' :: text)) := by
  intro rest
  have skipped := Text.after?_quotedName_of_mark (text ++ rest) other.quote_not_mem
    (by decide : ':' ≠ '"') (field.mark_not_mem ':' (by decide))
  have passed := quiet.passedBy field rest
  simpa [Field.key_eq] using skipped.trans passed

end Quiet

end Record

open Record (Quiet)

/-! ## Segments -/

namespace Rule

variable (rule : Rule) (field : Field)

/-- What stands behind the colon of a segment. -/
def behind : List Char := ' ' :: ((rule.value field).write 2 ++ field.trailer)

theorem segment_eq : rule.segment field = field.key ++ ':' :: rule.behind field := by
  simp [segment, member, behind]

theorem quiet_newline (level : Nat) : Quiet (newline (level + 1)) where
  free := by simp [Field.initials, newline]
  ended := by simp [newline, List.getLast?_cons, List.getLast?_replicate]

theorem quiet_trailer : Quiet field.trailer := by
  cases field with
  | processing => exact quiet_newline 0
  | _ => exact (quiet_newline 1).cons ',' (by decide)

variable {rule field}

theorem quiet_append_of_subset {text rest : List Char}
    (subset : text ⊆ (rule.value field).write 2) (quiet : Quiet rest) : Quiet (text ++ rest) :=
  quiet.append fun _ initial inside =>
    rule.not_mem_value field (Field.foreign_of_initial initial) (subset inside)

theorem quiet_behind : Quiet (rule.behind field) :=
  (quiet_append_of_subset (List.Subset.refl _) (quiet_trailer field)).space

theorem passedBy_segment (rule : Rule) {other : Field} (different : other ≠ field) :
    PassedBy field.key (rule.segment other) := by
  rw [segment_eq]
  exact quiet_behind.colon.passedBy_key different

theorem passedBy_segments (rule : Rule) {fields : List Field} (absent : field ∉ fields) :
    PassedBy field.key (fields.flatMap rule.segment) := by
  induction fields with
  | nil => exact fun _ => rfl
  | cons first rest ih =>
      obtain ⟨different, later⟩ := not_or.mp (mt List.mem_cons.mpr absent)
      exact (rule.passedBy_segment (Ne.symm different)).append (ih later)

theorem shows_segment {lead : List Char} (rest : List Char) (passed : PassedBy field.key lead)
    (bounded : rule.excess? = none) :
    Shows (lead ++ (rule.segment field ++ rest)) field (rule.part field) := by
  obtain ⟨mark, more, trailer, ended⟩ : ∃ mark more, field.trailer = mark :: more ∧
      (Json.Token.isSpace mark ∨ mark ∈ Json.Token.marks) := by
    cases field <;> exact ⟨_, _, rfl, by decide⟩
  rw [segment, trailer, List.append_assoc]
  exact Record.shows_member passed bounded ended

/-! ## Structural characters -/

def structural : List Char := '"' :: Json.Token.marks

/-- A segment parted at one of its structural characters. -/
inductive Break (rule : Rule) (field : Field) : List Char → Char → List Char → Prop
  | keyOpening : Break rule field [] '"' (field.name.toList ++ '"' :: ':' :: rule.behind field)
  | keyClosing : Break rule field ('"' :: field.name.toList) '"' (':' :: rule.behind field)
  | colon : Break rule field field.key ':' (rule.behind field)
  | value {left right : List Char} {letter : Char}
      (written : (rule.value field).write 2 = left ++ letter :: right) :
      Break rule field (field.key ++ ':' :: ' ' :: left) letter (right ++ field.trailer)
  | comma (followed : field.trailer = ',' :: newline 2) :
      Break rule field (rule.member field) ',' (newline 2)

variable {left right : List Char} {letter : Char}

theorem newline_ne (isStructural : letter ∈ structural) (level : Nat) : letter ∉ newline level := by
  have line : letter ≠ '\n' := by
    rintro rfl
    exact absurd isStructural (by decide)
  have space : letter ≠ ' ' := by
    rintro rfl
    exact absurd isStructural (by decide)
  simp [newline, line, space]

theorem eq_comma_of_trailer (isStructural : letter ∈ structural)
    (written : field.trailer = left ++ letter :: right) :
    left = [] ∧ letter = ',' ∧ right = newline 2 := by
  have inside : letter ∈ field.trailer := by simp [written]
  cases field with
  | processing => exact absurd inside (newline_ne isStructural 1)
  | _ =>
      rcases List.cons_eq_append_iff.mp written with ⟨rfl, found⟩ | ⟨front, rfl, later⟩
      · cases found
        exact ⟨rfl, rfl, rfl⟩
      · exact absurd (by simp [later]) (newline_ne isStructural 2)

theorem break_of_segment (isStructural : letter ∈ structural)
    (written : rule.segment field = left ++ letter :: right) :
    Break rule field left letter right := by
  have named : letter ∉ field.name.toList := by
    rcases List.mem_cons.mp isStructural with rfl | isMark
    · exact field.quote_not_mem
    · exact field.mark_not_mem letter isMark
  have letters : '"' :: (field.name.toList ++ '"' :: ':' :: rule.behind field) =
      left ++ letter :: right := by
    rw [← written, segment_eq, Field.key_eq, quotedName]
    simp
  rcases List.cons_eq_append_iff.mp letters with ⟨rfl, found⟩ | ⟨afterQuote, rfl, afterOpening⟩
  · cases found
    exact .keyOpening
  rcases split_append afterOpening with ⟨_, inName, _⟩ | ⟨afterName, rfl, closing⟩
  · exact absurd (by simp [inName]) named
  rcases List.cons_eq_append_iff.mp closing with ⟨rfl, found⟩ | ⟨afterKey, rfl, afterClosing⟩
  · cases found
    rw [List.append_nil]
    exact .keyClosing
  rcases List.cons_eq_append_iff.mp afterClosing with ⟨rfl, found⟩ | ⟨afterColon, rfl, content⟩
  · cases found
    exact .colon
  rcases List.cons_eq_append_iff.mp content with ⟨rfl, found⟩ | ⟨front, rfl, within⟩
  · cases found
    exact absurd isStructural (by decide)
  have lead : '"' :: (field.name.toList ++ '"' :: ':' :: ' ' :: front) =
      field.key ++ ':' :: ' ' :: front := by simp [Field.key_eq, quotedName]
  rw [lead]
  rcases split_append within with ⟨back, inValue, rfl⟩ | ⟨beyond, rfl, inTrailer⟩
  · exact .value inValue
  · obtain ⟨rfl, rfl, rfl⟩ := eq_comma_of_trailer isStructural inTrailer
    rw [List.append_nil]
    exact .comma inTrailer

theorem Break.passedBy {other : Field} (broken : Break rule field left letter right)
    (different : other ≠ field) : PassedBy other.key (left ++ right) := by
  have trailing := quiet_trailer field
  cases broken with
  | keyOpening => exact quiet_behind.colon.passedBy_unopened other field
  | keyClosing => exact quiet_behind.passedBy_unclosed other field
  | colon => exact quiet_behind.passedBy_key (Ne.symm different)
  | @value front back letter written =>
      have quiet := (quiet_append_of_subset (subset_of_missing written) trailing).space.colon
      have passed := quiet.passedBy_key (Ne.symm different)
      simpa using passed
  | comma _ =>
      have whole := List.Subset.refl ((rule.value field).write 2)
      have quiet := (quiet_append_of_subset whole (quiet_newline 1)).space.colon
      have passed := quiet.passedBy_key (Ne.symm different)
      simpa [member] using passed

end Rule

namespace Record.Field

/-! ## The order of fields -/

def next? : Field → Option Field
  | .destination => some .passport
  | .passport => some .purpose
  | .purpose => some .maxStay
  | .maxStay => some .visaRequired
  | .visaRequired => some .category
  | .category => some .kind
  | .kind => some .documents
  | .documents => some .processing
  | .processing => none

def following (field : Field) : List Field := (all.dropWhile (· ≠ field)).tail

theorem following_eq (field : Field) :
    field.following = field.next?.elim [] fun next => next :: next.following := by
  cases field <;> rfl

theorem nodup_all : all.Nodup := by decide

variable {before after : List Field} {field : Field}

theorem not_mem_of_order (order : all = before ++ field :: after) :
    field ∉ before ∧ field ∉ after := by
  have distinct := nodup_all
  rw [order] at distinct
  obtain ⟨_, later, apart⟩ := List.nodup_append.mp distinct
  have notBefore : field ∉ before := fun inside =>
    apart field inside field List.mem_cons_self rfl
  exact ⟨notBefore, (List.nodup_cons.mp later).1⟩

theorem following_of_order (order : all = before ++ field :: after) : field.following = after := by
  have others : ∀ other ∈ before, decide (other ≠ field) = true := by
    intro other inside
    have different : other ≠ field := fun same =>
      (not_mem_of_order order).1 (same ▸ inside)
    simpa using different
  rw [following, order, List.dropWhile_append_of_pos others, List.dropWhile_cons_of_neg (by simp),
    List.tail_cons]

end Record.Field

namespace Rule

/-! ## The record around a segment -/

variable {rule : Rule} {field : Field} {left right : List Char} {letter : Char}

variable (rule) in
/-- The record up to the segments of these fields, and these. -/
def leading (fields : List Field) : List Char := '{' :: (newline 2 ++ fields.flatMap rule.segment)

variable (rule) in
/-- The record from the segments of these fields on. -/
def trailing (fields : List Field) : List Char := fields.flatMap rule.segment ++ ['}']

theorem trailing_cons (next : Field) (more : List Field) :
    rule.trailing (next :: more) =
      next.key ++ ':' :: (rule.behind next ++ rule.trailing more) := by
  simp [trailing, segment_eq]

theorem passedBy_leading (rule : Rule) {fields : List Field} (absent : field ∉ fields) :
    PassedBy field.key (rule.leading fields) := by
  have opening : PassedBy field.key ('{' :: newline 2) := Text.passedBy_of_not_mem _ (by decide)
  exact opening.append (rule.passedBy_segments absent)

theorem passedBy_trailing (rule : Rule) {fields : List Field} (absent : field ∉ fields) :
    PassedBy field.key (rule.trailing fields) :=
  (rule.passedBy_segments absent).append (Text.passedBy_of_not_mem _ (by decide))

variable {before after : List Field}

/-- The other fields are shown whatever stands in the place of a segment, as long as the searches
for their names go over it. -/
theorem shows_around {other : Field} {middle : List Char}
    (order : Field.all = before ++ field :: after) (passed : PassedBy other.key middle)
    (bounded : rule.excess? = none) (different : other ≠ field) :
    Shows (rule.leading before ++ (middle ++ rule.trailing after)) other (rule.part other) := by
  by_cases inBefore : other ∈ before
  · obtain ⟨earlier, later, rfl, fresh⟩ := List.eq_append_cons_of_mem inBefore
    have shown := shows_segment (later.flatMap rule.segment ++ (middle ++ rule.trailing after))
      (rule.passedBy_leading fresh) bounded
    simpa [leading] using shown
  · have inAfter : other ∈ after := by
      have inAll := other.mem_all
      rw [order] at inAll
      simpa [inBefore, different] using inAll
    obtain ⟨earlier, later, rfl, fresh⟩ := List.eq_append_cons_of_mem inAfter
    have passedLead := ((rule.passedBy_leading inBefore).append passed).append
      (rule.passedBy_segments fresh)
    have shown := shows_segment (rule.trailing later) passedLead bounded
    simpa [trailing] using shown

theorem shows_others {other : Field} (order : Field.all = before ++ field :: after)
    (broken : Break rule field left letter right) (bounded : rule.excess? = none)
    (different : other ≠ field) :
    Shows (rule.leading before ++ (left ++ (right ++ rule.trailing after))) other
      (rule.part other) := by
  rw [← List.append_assoc left]
  exact shows_around order (broken.passedBy different) bounded different

end Rule

end Visa
