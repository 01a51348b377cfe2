import Mathlib.Data.Rat.Floor
import Visa.Proofs.Damage
import Visa.Proofs.Diagnosis
import Visa.Proofs.Missing

namespace Visa

/-! Counts given by any number literal. A count is read up to where digits and minus signs end, so a
fraction and an exponent are passed over: what is read is the number in front of the exponent,
rounded towards zero. -/

/-! ## What literals denote -/

namespace Json

theorem Number.ofDigitChars_lt {run : List Char} (digits : ∀ letter ∈ run, letter.isDigit) :
    Nat.ofDigitChars 10 run 0 < 10 ^ run.length := by
  induction run with
  | nil => decide
  | cons letter rest ih =>
      obtain ⟨first, later⟩ := List.forall_mem_cons.mp digits
      have small := (Number.digitChar_sub first).2
      have less := ih later
      have scaled : 10 ^ rest.length * (letter.toNat - '0'.toNat) ≤ 10 ^ rest.length * 9 :=
        Nat.mul_le_mul_left _ (by omega)
      rw [Nat.ofDigitChars_cons, Nat.ofDigitChars_eq_ofDigitChars_zero, Nat.mul_zero,
        Nat.zero_add, List.length_cons, Nat.pow_succ]
      omega

/-- The value of digits behind a point. -/
def Digits.share (run : Digits) : ℚ := run.value / 10 ^ run.letters.length

theorem Digits.share_nonneg (run : Digits) : 0 ≤ run.share := by
  unfold share
  positivity

theorem Digits.share_lt_one (run : Digits) : run.share < 1 := by
  have positive : (0 : ℚ) < 10 ^ run.letters.length := by positivity
  rw [share, div_lt_one positive]
  exact_mod_cast Number.ofDigitChars_lt run.isDigit_of_mem

/-- The integer next to a rational number, on the side of zero. -/
def truncate (value : ℚ) : Int := if 0 ≤ value then ⌊value⌋ else ⌈value⌉

theorem truncate_neg {value : ℚ} (nonneg : 0 ≤ value) : truncate (-value) = -truncate value := by
  rw [truncate, truncate, if_pos nonneg, Int.floor_neg, Int.ceil_neg]
  by_cases zero : value = 0
  · simp [zero]
  · have positive := lt_of_le_of_ne nonneg (Ne.symm zero)
    rw [if_neg (not_le.mpr (neg_neg_of_pos positive))]

namespace Numeral

variable (numeral : Numeral)

def magnitude : ℚ := numeral.whole.value + numeral.fraction.elim 0 Digits.share

/-- The number in front of the exponent. -/
def unscaled : ℚ := if numeral.isNegative then -numeral.magnitude else numeral.magnitude

def value : ℚ := numeral.unscaled * 10 ^ numeral.exponent.elim 0 Exponent.value

/-- The number that the sign and the integer part denote by themselves. -/
def integer : Int :=
  if numeral.isNegative then -(numeral.whole.value : Int) else numeral.whole.value

theorem floor_magnitude : ⌊numeral.magnitude⌋ = numeral.whole.value := by
  have share : 0 ≤ numeral.fraction.elim 0 Digits.share ∧
      numeral.fraction.elim 0 Digits.share < 1 := by
    cases numeral.fraction with
    | none => simp
    | some run => exact ⟨run.share_nonneg, run.share_lt_one⟩
  rw [magnitude, Int.floor_natCast_add, Int.floor_eq_zero_iff.mpr share, add_zero]

theorem magnitude_nonneg : 0 ≤ numeral.magnitude := by
  have floor : (0 : Int) ≤ ⌊numeral.magnitude⌋ := by
    rw [floor_magnitude]
    exact Int.natCast_nonneg _
  exact Int.floor_nonneg.mp floor

theorem integer_eq_truncate : numeral.integer = truncate numeral.unscaled := by
  have floor : truncate numeral.magnitude = numeral.whole.value := by
    rw [truncate, if_pos numeral.magnitude_nonneg, floor_magnitude]
  unfold integer unscaled
  cases numeral.isNegative with
  | false => exact floor.symm
  | true => exact ((truncate_neg numeral.magnitude_nonneg).trans (congrArg _ floor)).symm

theorem value_eq_unscaled (plain : numeral.exponent = none) :
    numeral.value = numeral.unscaled := by
  simp [value, plain]

theorem value_eq_integer (whole : numeral.fraction = none) (plain : numeral.exponent = none) :
    numeral.value = numeral.integer := by
  rw [value_eq_unscaled numeral plain, unscaled, integer, magnitude, whole, Option.elim_none,
    add_zero]
  cases numeral.isNegative <;> simp

end Numeral

end Json

open Json (Numeral)
open Record (Field Quiet Shows)

/-! ## What is read of a literal -/

namespace DayCount

theorem digits?_letters (run : Json.Digits) : digits? run.letters = some run.value := by
  simp [digits?, run.nonempty, run.digits, Json.Digits.value]

theorem integer?_start (numeral : Numeral) : integer? numeral.start = some numeral.integer := by
  have digits := digits?_letters numeral.whole
  rw [Numeral.start, Numeral.integer]
  cases numeral.isNegative with
  | true =>
      change (digits? numeral.whole.letters).map _ = _
      rw [digits]
      rfl
  | false =>
      change integer? numeral.whole.letters = _
      unfold integer?
      split
      · rename_i minus
        have sign := numeral.whole.isDigit_of_mem '-' (by simp [minus])
        contradiction
      · rw [digits]
        rfl

end DayCount

namespace Record

variable {numeral : Numeral} {record rest : List Char} {field : Field}

theorem count?_of_numeral (found : valueText field record = some (' ' :: (numeral.text ++ rest)))
    (stops : rest.takeWhile isCountLetter = []) : count? field record = some numeral.start := by
  have read : valueText field record =
      some ([' '] ++ (numeral.start ++ (numeral.ending ++ rest))) := by
    simpa [Numeral.text] using found
  refine run?_of_valueText read allSpace_singleton numeral.start_ne_nil ?_ ?_
    (numeral.takeWhile_ending (by decide) stops)
  · intro letter inside
    rcases Numeral.starts_of_mem_start inside with digit | rfl
    · exact Text.isBlank_of_isDigit digit
    · decide
  · intro letter inside
    rcases Numeral.starts_of_mem_start inside with digit | rfl
    · rw [isCountLetter, digit, Bool.true_or]
    · rfl

end Record

/-! ## Records with a literal in the place of a value -/

namespace Rule

variable (rule : Rule) (field : Field) (text : List Char)

def segmentWith (other : Field) : List Char :=
  other.key ++ ':' :: ' ' :: ((if other = field then text else (rule.value other).write 2) ++
    other.trailer)

def insideWith : List Char := Json.Value.newline 2 ++ Field.all.flatMap (rule.segmentWith field text)

/-- The written record, with the text in the place of the value of the field. -/
def recordWith : List Char := '{' :: (rule.insideWith field text ++ ['}'])

def renderWith : List Char := opening [] ++ (rule.recordWith field text ++ closing [])

def withCount (count : UInt32) : Rule :=
  match field with
  | .maxStay => { rule with maxStay := count }
  | .processing => { rule with processing := count }
  | _ => rule

variable {rule field text} {other : Field}

theorem segmentWith_of_ne (different : other ≠ field) :
    rule.segmentWith field text other = rule.segment other := by
  rw [segmentWith, if_neg different, segment, member]
  simp

theorem segmentWith_self :
    rule.segmentWith field text field = field.key ++ ':' :: ' ' :: (text ++ field.trailer) := by
  rw [segmentWith, if_pos rfl]

theorem flatMap_segmentWith {fields : List Field} (absent : field ∉ fields) :
    fields.flatMap (rule.segmentWith field text) = fields.flatMap rule.segment :=
  List.flatMap_congr fun _ inside =>
    segmentWith_of_ne fun same => absent (same ▸ inside)

theorem recordWith_eq {before after : List Field} (order : Field.all = before ++ field :: after) :
    rule.recordWith field text = rule.leading before ++
      (field.key ++ ':' :: ' ' :: (text ++ field.trailer) ++ rule.trailing after) := by
  obtain ⟨notBefore, notAfter⟩ := Field.not_mem_of_order order
  rw [recordWith, insideWith, order, List.flatMap_append, List.flatMap_cons,
    flatMap_segmentWith notBefore, flatMap_segmentWith notAfter, segmentWith_self, leading, trailing]
  simp

theorem renderWith_value (rule : Rule) (field : Field) :
    rule.renderWith field ((rule.value field).write 2) = renderAll [rule] := by
  have same : rule.segmentWith field ((rule.value field).write 2) = rule.segment := by
    funext other
    by_cases self : other = field
    · rw [self, segmentWith_self, segment, member]
      simp
    · exact segmentWith_of_ne self
  rw [renderWith, recordWith, insideWith, same, renderAll_cons, write_toJson, inside]

theorem mem_inside_of_mem_insideWith {letter : Char}
    (within : letter ∈ rule.insideWith field text) : letter ∈ text ∨ letter ∈ rule.inside := by
  rcases List.mem_append.mp within with inLine | inSegments
  · exact .inr (List.mem_append_left _ inLine)
  · obtain ⟨other, inAll, inSegment⟩ := List.mem_flatMap.mp inSegments
    have written : letter ∈ text ∨ letter ∈ rule.segment other := by
      by_cases self : other = field
      · rw [self, segmentWith_self] at inSegment
        simp only [self, segment, member, List.mem_append, List.mem_cons] at inSegment ⊢
        tauto
      · rw [segmentWith_of_ne self] at inSegment
        exact .inr inSegment
    exact written.imp_right fun inWritten =>
      List.mem_append_right _ (List.mem_flatMap.mpr ⟨other, inAll, inWritten⟩)

/-! ## What such a record shows -/

variable {numeral : Numeral}

theorem not_mem_numeral {letter : Char} (foreign : Json.Number.isNumeral letter = false) :
    letter ∉ numeral.text := fun inside =>
  Bool.false_ne_true (foreign.symm.trans (Numeral.isNumeral_of_mem inside))

theorem shows_of_ne (numeral : Numeral) (bounded : rule.excess? = none)
    (different : other ≠ field) :
    Shows (rule.recordWith field numeral.text) other (rule.part other) := by
  obtain ⟨before, after, order⟩ := List.append_of_mem field.mem_all
  have quiet : Quiet (':' :: ' ' :: (numeral.text ++ field.trailer)) := by
    refine ((quiet_trailer field).append fun letter initial => ?_).space.colon
    have every : Field.initials.all fun letter => !Json.Number.isNumeral letter := by decide
    exact not_mem_numeral (refused_of_mem _ initial every)
  rw [recordWith_eq order]
  exact shows_around order (quiet.passedBy_key (Ne.symm different)) bounded different

theorem count?_recordWith (numeral : Numeral) :
    Record.count? field (rule.recordWith field numeral.text) = some numeral.start := by
  obtain ⟨before, after, order⟩ := List.append_of_mem field.mem_all
  have passed := rule.passedBy_leading (Field.not_mem_of_order order).1
  have found := Record.valueText_behind []
    (' ' :: (numeral.text ++ (field.trailer ++ rule.trailing after))) passed List.not_mem_nil
  have stops : (field.trailer ++ rule.trailing after).takeWhile Record.isCountLetter = [] := by
    cases field <;> rfl
  refine Record.count?_of_numeral ?_ stops
  rw [recordWith_eq order]
  simpa using found

theorem part_withCount_of_ne (rule : Rule) (count : UInt32) (different : other ≠ field) :
    (rule.withCount field count).part other = rule.part other := by
  cases field with
  | maxStay =>
      cases other with
      | maxStay => contradiction
      | _ => rfl
  | processing =>
      cases other with
      | processing => contradiction
      | _ => rfl
  | _ => rfl

end Rule

/-! ## Records with everything else in order -/

namespace Record

variable {rule : Rule} {record text : List Char} {field : Field}

theorem read_withCount {count : UInt32} (isCount : field = .maxStay ∨ field = .processing)
    (others : ∀ other ≠ field, Shows record other (rule.part other))
    (shown : ShowsCount field record count) : read record = .ok (rule.withCount field count) := by
  rw [read_eq_ok_iff]
  intro other
  by_cases self : other = field
  · subst self
    rcases isCount with rfl | rfl
    · exact shown
    · exact shown
  · rw [rule.part_withCount_of_ne count self]
    exact others other self

theorem findSome?_of_only {α β : Type} {items : List α} {check : α → Option β} {item : α}
    {fault : β} (inside : item ∈ items) (found : check item = some fault)
    (only : ∀ other ≠ item, check other = none) : items.findSome? check = some fault := by
  obtain ⟨before, after, rfl, fresh⟩ := List.eq_append_cons_of_mem inside
  have clean : before.findSome? check = none := by
    rw [List.findSome?_eq_none_iff]
    exact fun other earlier => only other fun same => fresh (same ▸ earlier)
  rw [List.findSome?_append, clean, Option.none_or, List.findSome?_cons, found]

theorem isFound_of_isCount (isCount : field = .maxStay ∨ field = .processing) :
    field.isFound record = (count? field record).isSome := by
  rcases isCount with rfl | rfl <;> rfl

theorem misread?_of_isCount (isCount : field = .maxStay ∨ field = .processing) :
    misread? record field = (count? field record).bind (uncounted? field) := by
  rcases isCount with rfl | rfl <;> rfl

/-- With everything else shown, a count that means nothing is the fault. -/
theorem read_of_uncounted {fault : Fault} (isCount : field = .maxStay ∨ field = .processing)
    (others : ∀ other ≠ field, Shows record other (rule.part other))
    (found : count? field record = some text) (uncounted : uncounted? field text = some fault) :
    read record = .error fault := by
  have isFound : field.isFound record := by
    rw [isFound_of_isCount isCount, found, Option.isSome_some]
  have misread : misread? record field = some fault := by
    rw [misread?_of_isCount isCount, found, Option.bind_some, uncounted]
  have inside : field ∈ Field.interpreted := by rcases isCount with rfl | rfl <;> decide
  rw [error_iff_of_found fun other _ => ?_]
  · exact findSome?_of_only inside misread fun other different =>
      misread?_of_shows (others other different)
  · by_cases self : other = field
    · rwa [self]
    · exact isFound_of_shows (others other self)

end Record

namespace Rule

variable {rule : Rule} {field : Field} {numeral : Numeral}

theorem read_of_admitted (isCount : field = .maxStay ∨ field = .processing)
    (bounded : rule.excess? = none) (admitted : DayCount.isAdmitted numeral.integer) :
    Record.read (rule.recordWith field numeral.text) =
      .ok (rule.withCount field (UInt32.ofNat numeral.integer.toNat)) := by
  refine Record.read_withCount isCount (fun other => shows_of_ne numeral bounded) ?_
  refine ⟨numeral.start, count?_recordWith numeral, ?_⟩
  rw [DayCount.ofRecord?_eq, DayCount.integer?_start, Option.filter_some, if_pos admitted,
    Option.map_some]

theorem read_of_not_admitted (isCount : field = .maxStay ∨ field = .processing)
    (bounded : rule.excess? = none) (refused : ¬DayCount.isAdmitted numeral.integer) :
    Record.read (rule.recordWith field numeral.text) =
      .error (.invalidCount field.name (String.ofList numeral.start)) := by
  refine Record.read_of_uncounted isCount (fun other => shows_of_ne numeral bounded)
    (count?_recordWith numeral) ?_
  rw [Record.uncounted?, DayCount.integer?_start, Option.any_some, if_neg refused]

end Rule

/-! ## Lists of one such record -/

namespace Report

variable {rule : Rule} {field : Field} {text : List Char}

theorem ofText_renderWith (noOpen : '{' ∉ text) (noClose : '}' ∉ text) :
    ofText (rule.renderWith field text) = ofCut ⟨[rule.recordWith field text], none⟩ := by
  have open_not_mem : '{' ∉ rule.insideWith field text := fun within =>
    (Rule.mem_inside_of_mem_insideWith within).elim noOpen rule.open_not_mem_inside
  have close_not_mem : '}' ∉ rule.insideWith field text := fun within =>
    (Rule.mem_inside_of_mem_insideWith within).elim noClose rule.close_not_mem_inside
  have object := Record.yields_object open_not_mem close_not_mem
  have whole := (Rule.yields_opening []).append (object.append (Rule.yields_closing []))
  exact ofText_of_yields whole

theorem ofCut_of_ok {record : List Char} (found : Record.read record = .ok rule) :
    ofCut ⟨[record], none⟩ = ⟨[rule], []⟩ := by
  simp [ofCut, skip?, found, Except.toOption]

theorem ofCut_of_error {record : List Char} {reason : Fault}
    (failed : Record.read record = .error reason) :
    ofCut ⟨[record], none⟩ = ⟨[], [⟨0, reason, String.ofList (snippet record)⟩]⟩ := by
  simp [ofCut, skip?, failed, Except.toOption]

/-- A number literal in the place of a written count is read as the integer that its sign and its
integer part denote, which is the number in front of the exponent, rounded towards zero: the number
itself if there is neither a fraction nor an exponent. If a record can give that integer, the rule
has it and is otherwise as it was written; if not, the record is skipped. -/
theorem ofText_renderWith_numeral (rule : Rule) (numeral : Numeral)
    (isCount : field = .maxStay ∨ field = .processing)
    (bounded : rule.maxStay.toNat ≤ DayCount.recordLimit ∧
      rule.processing.toNat ≤ DayCount.recordLimit) :
    rule.renderWith field ((rule.value field).write 2) = Rule.renderAll [rule] ∧
      (0 ≤ numeral.integer ∧ numeral.integer ≤ DayCount.recordLimit → ∃ count : UInt32,
        (count.toNat : Int) = numeral.integer ∧
          ofText (rule.renderWith field numeral.text) = ⟨[rule.withCount field count], []⟩) ∧
      (¬(0 ≤ numeral.integer ∧ numeral.integer ≤ DayCount.recordLimit) →
        ofText (rule.renderWith field numeral.text) =
          ⟨[], [⟨0, .invalidCount field.name (String.ofList numeral.start),
            String.ofList (snippet (rule.recordWith field numeral.text))⟩]⟩) ∧
      numeral.integer = Json.truncate numeral.unscaled ∧
      (numeral.exponent = none → numeral.value = numeral.unscaled) ∧
      (numeral.fraction = none → numeral.exponent = none → numeral.value = numeral.integer) := by
  have read : ofText (rule.renderWith field numeral.text) =
      ofCut ⟨[rule.recordWith field numeral.text], none⟩ :=
    ofText_renderWith (Rule.not_mem_numeral (by decide)) (Rule.not_mem_numeral (by decide))
  have excess := Rule.excess?_eq_none_iff.mpr bounded
  refine ⟨rule.renderWith_value field, fun inRange => ?_, fun outside => ?_,
    numeral.integer_eq_truncate, numeral.value_eq_unscaled, numeral.value_eq_integer⟩
  · have admitted : DayCount.isAdmitted numeral.integer := by
      simpa [DayCount.isAdmitted] using inRange
    have small : numeral.integer.toNat < UInt32.size := by
      have bound : DayCount.recordLimit < UInt32.size := by decide
      omega
    refine ⟨UInt32.ofNat numeral.integer.toNat, ?_, ?_⟩
    · rw [UInt32.toNat_ofNat_of_lt' small, Int.toNat_of_nonneg inRange.1]
    · rw [read, ofCut_of_ok (Rule.read_of_admitted isCount excess admitted)]
  · have refused : ¬DayCount.isAdmitted numeral.integer := by
      simpa [DayCount.isAdmitted] using outside
    rw [read, ofCut_of_error (Rule.read_of_not_admitted isCount excess refused)]

theorem ofText_renderWith_numeral_scaled :
    let rule : Rule :=
      { destination := .japan, passport := .usa, purpose := .tourism, maxStay := 90
        visaRequired := false, category := .visaFree, kind := .none, documents := []
        processing := 0 }
    let numeral : Numeral :=
      { isNegative := false, whole := ⟨['3', '0'], by decide, by decide⟩, canonical := by decide
        fraction := some ⟨['7', '5'], by decide, by decide⟩
        exponent := some ⟨'e', .inl rfl, .plus, ⟨['2'], by decide, by decide⟩⟩ }
    numeral.text = "30.75e+2".toList ∧ ∃ count : UInt32, (count.toNat : Int) = 30 ∧
      ofText (rule.renderWith .processing numeral.text) =
        ⟨[rule.withCount .processing count], []⟩ := by
  intro rule numeral
  obtain ⟨_, inRange, _⟩ := ofText_renderWith_numeral rule numeral (.inr rfl) (by decide)
  exact ⟨rfl, inRange (by decide)⟩

/-- A count with a fraction is read, as another number. -/
theorem rules_of_fraction_truncated :
    let rule : Rule :=
      { destination := .japan, passport := .usa, purpose := .tourism, maxStay := 90
        visaRequired := false, category := .visaFree, kind := .none, documents := []
        processing := 0 }
    let numeral : Numeral :=
      { isNegative := false, whole := ⟨['3', '0'], by decide, by decide⟩, canonical := by decide
        fraction := some ⟨['5'], by decide, by decide⟩, exponent := none }
    numeral.text = "30.5".toList ∧ numeral.value = 61 / 2 ∧
      ofText (rule.renderWith .maxStay numeral.text) = ⟨[{ rule with maxStay := 30 }], []⟩ ∧
      ((30 : UInt32).toNat : ℚ) ≠ numeral.value := by
  intro rule numeral
  have digits : numeral.whole.value = 30 ∧ Json.Digits.value ⟨['5'], by decide, by decide⟩ = 5 := by
    decide
  have value : numeral.value = 61 / 2 := by
    rw [Numeral.value_eq_unscaled numeral rfl]
    norm_num [numeral, Numeral.unscaled, Numeral.magnitude, Json.Digits.share, digits]
  have small : ((30 : UInt32).toNat : ℚ) = 30 := rfl
  refine ⟨rfl, value, by decide +kernel, ?_⟩
  rw [value, small]
  norm_num

end Report

end Visa
