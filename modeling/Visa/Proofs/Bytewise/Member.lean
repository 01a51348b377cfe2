import Visa.Proofs.Bytewise.Cut
import Visa.Proofs.Occurrence

namespace Visa.Bytewise

/-! The members of a record, looked up by positions in its bytes. The position of a value is a sum
of what several searches give, each of them in a slice of what the one before it left. -/

def valueStart (field : Record.Field) (record : List UInt8) : Except Trap (Option Nat) := do
  let key := encode field.key
  let some index := find key record | return none
  let keyEnd := index + key.length
  let some colon := find (encode [':']) (← sliceFrom record keyEnd) | return none
  return some (keyEnd + colon + 1)

def string (field : Record.Field) (record : List UInt8) : Except Trap (Option (List Char)) := do
  let some start ← valueStart field record | return none
  let rest ← sliceFrom record start
  let some quote := find (encode ['"']) rest | return none
  let opened := quote + 1
  let some length := find (encode ['"']) (← sliceFrom rest opened) | return none
  let inside ← slice rest opened (opened + length)
  return some (Text.trim (← decode inside))

/-- The position of the first character that is not accepted, or of the end. -/
def runEnd (accepts : Char → Bool) (bytes : List UInt8) : Except Trap Nat := do
  let refused := (indices 0 (← decode bytes)).find? fun place => !accepts place.2
  return (refused.map Prod.fst).getD bytes.length

def token (accepts : Char → Bool) (field : Record.Field) (record : List UInt8) :
    Except Trap (Option (List Char)) := do
  let some start ← valueStart field record | return none
  let rest ← onText Text.trimStart (← sliceFrom record start)
  let stop ← runEnd accepts rest
  if stop = 0 then return none
  return some (← decode (← sliceTo rest stop))

def stripQuotes (item : List UInt8) : Except Trap (List UInt8) :=
  if 2 ≤ item.length ∧ encode ['"'] <+: item ∧ encode ['"'] <:+ item then do
    let stop ← decrement item.length
    slice item 1 stop
  else .ok item

def items (field : Record.Field) (record : List UInt8) : Except Trap (List (List Char)) := do
  let some start ← valueStart field record | return []
  let rest ← sliceFrom record start
  let some opening := find (encode ['[']) rest | return []
  let inner ← sliceFrom rest (opening + 1)
  let some closing := find (encode [']']) inner | return []
  let inside ← decode (← sliceTo inner closing)
  let stripped ← (inside.splitOnP (· == ',')).mapM fun piece =>
    stripQuotes (encode (Text.trim piece))
  (stripped.filter fun item => !item.isEmpty).mapM decode

/-! ## Where a value starts -/

theorem valueStart_cases (field : Record.Field) (record : List Char) :
    (valueStart field (encode record) = .ok none ∧ Record.valueText field record = none) ∨
      ∃ before value, record = before ++ value ∧
        valueStart field (encode record) = .ok (some (Text.byteSize before)) ∧
        Record.valueText field record = some value := by
  have named : field.key ≠ [] := List.cons_ne_nil _ _
  rcases find_cases named record with ⟨noKey, -, absent⟩ | ⟨before, after, rfl, key, -, found⟩
  · refine .inl ⟨?_, by rw [Record.valueText, absent, Option.bind_none]⟩
    simp only [valueStart, noKey]
    rfl
  have rest := sliceFrom_encode (before ++ field.key) after
  rw [Text.byteSize_append, ← length_encode field.key] at rest
  rcases find_cases (List.cons_ne_nil ':' []) after with
    ⟨noColon, -, absent⟩ | ⟨gap, value, rfl, colon, -, behind⟩
  · refine .inl ⟨?_, by rw [Record.valueText, found, Option.bind_some, absent]⟩
    simp only [valueStart, key, rest, ok_bind, noColon]
    rfl
  · refine .inr ⟨before ++ field.key ++ gap ++ [':'], value, by simp, ?_, ?_⟩
    · have size : Text.byteSize (before ++ field.key ++ gap ++ [':']) =
          Text.byteSize before + (encode field.key).length + Text.byteSize gap + 1 := by
        rw [byteSize_concat rfl, Text.byteSize_append, Text.byteSize_append, length_encode]
      simp only [valueStart, key, rest, ok_bind, colon, size]
      rfl
    · rw [Record.valueText, found, Option.bind_some, behind]

/-! ## Texts and runs -/

theorem string_encode (field : Record.Field) (record : List Char) :
    string field (encode record) = .ok (Record.string? field record) := by
  rcases valueStart_cases field record with ⟨noValue, absent⟩ | ⟨before, value, rfl, start, found⟩
  · simp only [string, noValue, ok_bind, Record.string?, absent]
    rfl
  have rest := sliceFrom_encode before value
  rcases find_cases (List.cons_ne_nil '"' []) value with
    ⟨noQuote, -, absent⟩ | ⟨front, opened, rfl, quote, -, behind⟩
  · simp only [string, start, ok_bind, rest, noQuote, Record.string?, found, Option.bind_eq_bind,
      Option.bind_some, absent]
    rfl
  have inner := sliceFrom_behind (show '"'.utf8Size = 1 from rfl) front opened
  rcases find_cases (List.cons_ne_nil '"' []) opened with
    ⟨noQuote, absent, -⟩ | ⟨inside, after, rfl, closing, shown, -⟩
  · simp only [string, start, ok_bind, rest, quote, inner, noQuote, Record.string?, found,
      Option.bind_eq_bind, Option.bind_some, behind, absent]
    rfl
  · have cut := slice_behind (show '"'.utf8Size = 1 from rfl) front inside (['"'] ++ after)
    rw [← List.append_assoc inside] at cut
    simp only [string, start, ok_bind, rest, quote, inner, closing, cut, decode_encode,
      Record.string?, found, Option.bind_eq_bind, Option.bind_some, behind, shown]
    rfl

theorem getD_find?_indices (accepts : Char → Bool) (index : Nat) (text : List Char) :
    (((indices index text).find? fun place => !accepts place.2).map Prod.fst).getD
      (index + Text.byteSize text) = index + Text.byteSize (text.takeWhile accepts) := by
  induction text generalizing index with
  | nil => rfl
  | cons letter rest ih =>
      rw [indices, List.find?_cons, List.takeWhile_cons, Text.byteSize]
      cases accepted : accepts letter with
      | true => simpa [Text.byteSize, Nat.add_assoc] using ih (index + letter.utf8Size)
      | false => rfl

theorem runEnd_encode (accepts : Char → Bool) (text : List Char) :
    runEnd accepts (encode text) = .ok (Text.byteSize (text.takeWhile accepts)) := by
  have place := getD_find?_indices accepts 0 text
  rw [Nat.zero_add, Nat.zero_add] at place
  simp only [runEnd, decode_encode, ok_bind, length_encode, place]
  rfl

theorem token_encode (accepts : Char → Bool) (field : Record.Field) (record : List Char) :
    token accepts field (encode record) = .ok (Record.run? accepts field record) := by
  rcases valueStart_cases field record with ⟨noValue, absent⟩ | ⟨before, value, rfl, start, found⟩
  · simp only [token, noValue, ok_bind, Record.run?, absent]
    rfl
  have rest := sliceFrom_encode before value
  simp only [token, start, ok_bind, rest, onText_encode, runEnd_encode, Record.run?, found,
    Option.bind_eq_bind, Option.bind_some]
  generalize Text.trimStart value = trimmed
  have run := sliceTo_encode (trimmed.takeWhile accepts) (trimmed.dropWhile accepts)
  rw [List.takeWhile_append_dropWhile] at run
  have empty : Text.byteSize (trimmed.takeWhile accepts) = 0 ↔
      (trimmed.takeWhile accepts).isEmpty := by
    rw [← length_encode, List.length_eq_zero_iff, encode_eq_nil_iff, List.isEmpty_iff]
  simp only [empty, run, ok_bind, decode_encode]
  split <;> rfl

/-! ## Lists -/

theorem stripQuotes_encode (item : List Char) :
    stripQuotes (encode item) = .ok (encode (Record.unquote item)) := by
  have quote : (['"'] : List Char) ≠ [] := List.cons_ne_nil _ _
  simp only [stripQuotes, encode_prefix_iff, encode_suffix_iff quote, length_encode]
  generalize unquoted : Record.unquote item = shown
  have form := Record.unquoted_unquote item
  rw [unquoted] at form
  cases form with
  | quoted =>
      have size : Text.byteSize ('"' :: (shown ++ ['"'])) = 1 + Text.byteSize shown + 1 := by
        rw [Text.byteSize, Text.byteSize_append, ← Nat.add_assoc]
        rfl
      have closing : ['"'] <:+ '"' :: (shown ++ ['"']) := ⟨'"' :: shown, rfl⟩
      rw [if_pos ⟨by omega, ⟨shown ++ ['"'], rfl⟩, closing⟩, size, decrement, ok_bind]
      exact slice_encode ['"'] shown ['"']
  | bare _ other =>
      rw [if_neg]
      rintro ⟨long, ⟨rest, rfl⟩, front, whole⟩
      cases front with
      | nil =>
          rw [← whole] at long
          exact absurd long (by decide)
      | cons letter inside =>
          obtain ⟨rfl, rfl⟩ := List.cons.inj whole
          exact other inside rfl

/-- An item that is a single quote has nothing between its first byte and its last. -/
example : slice (encode ['"']) 1 0 = .error .badSlice := by decide

theorem mapM_decode (texts : List (List Char)) : (texts.map encode).mapM decode = .ok texts := by
  have same : decode ∘ encode = fun text => pure (id text) := funext decode_encode
  rw [List.mapM_map, same, List.mapM_pure, List.map_id]
  rfl

theorem filter_encode (texts : List (List Char)) :
    ((texts.map encode).filter fun item => !item.isEmpty) =
      (texts.filter fun text => !text.isEmpty).map encode := by
  rw [List.filter_map]
  simp only [Function.comp_def, isEmpty_encode]

theorem mapM_stripQuotes (pieces : List (List Char)) :
    (pieces.mapM fun piece => stripQuotes (encode (Text.trim piece))) =
      .ok ((pieces.map fun piece => Record.unquote (Text.trim piece)).map encode) := by
  simp only [stripQuotes_encode, List.map_map]
  exact List.mapM_pure

theorem items_encode (field : Record.Field) (record : List Char) :
    items field (encode record) = .ok (Record.items field record) := by
  rcases valueStart_cases field record with ⟨noValue, absent⟩ | ⟨before, value, rfl, start, found⟩
  · simp only [items, noValue, ok_bind, Record.items, absent]
    rfl
  have rest := sliceFrom_encode before value
  rcases find_cases (List.cons_ne_nil '[' []) value with
    ⟨noBracket, -, absent⟩ | ⟨front, opened, rfl, bracket, -, behind⟩
  · simp only [items, start, ok_bind, rest, noBracket, Record.items, found, Option.bind_eq_bind,
      Option.bind_some, absent]
    rfl
  have inner := sliceFrom_behind (show '['.utf8Size = 1 from rfl) front opened
  rcases find_cases (List.cons_ne_nil ']' []) opened with
    ⟨noBracket, absent, -⟩ | ⟨inside, after, rfl, closing, shown, -⟩
  · simp only [items, start, ok_bind, rest, bracket, inner, noBracket, Record.items, found,
      Option.bind_eq_bind, Option.bind_some, behind, absent]
    rfl
  · have cut := sliceTo_encode inside ([']'] ++ after)
    rw [← List.append_assoc] at cut
    simp only [items, start, ok_bind, rest, bracket, inner, closing, cut, decode_encode,
      mapM_stripQuotes, filter_encode, mapM_decode, Record.items, found, Option.bind_eq_bind,
      Option.bind_some, behind, shown]

end Visa.Bytewise
