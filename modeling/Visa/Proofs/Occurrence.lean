import Visa.Proofs.Member
import Visa.Proofs.Pieces

namespace Visa

/-! What a lookup in a record finds, said without a search: the record is parted at the first
occurrence of a quoted name, and what stands behind it is parted at the first of each mark that the
kind of value calls for. What stands in front of the name has no part in it. -/

/-! ## First occurrences -/

namespace Text

variable {key text before after front rest : List Char} {mark : Char}

/-- The text with the key between two parts, of which the first is as short as can be. -/
structure FirstAt (key before after text : List Char) : Prop where
  whole : text = before ++ key ++ after
  first : ∀ front rest, text = front ++ key ++ rest → before.length ≤ front.length

theorem FirstAt.unique (left : FirstAt key before after text)
    (right : FirstAt key front rest text) : before = front ∧ after = rest := by
  have lengths : before.length = front.length :=
    Nat.le_antisymm (left.first _ _ right.whole) (right.first _ _ left.whole)
  have same : before ++ (key ++ after) = front ++ (key ++ rest) := by
    rw [← List.append_assoc, ← List.append_assoc, ← left.whole, right.whole]
  obtain ⟨fronts, behind⟩ := List.append_inj same lengths
  exact ⟨fronts, List.append_cancel_left behind⟩

theorem firstAt_of_cutAt (found : cutAt key text = some (before, after)) :
    FirstAt key before after text where
  whole := eq_append_of_cutAt found
  first := by
    induction text generalizing before with
    | nil =>
        simp only [cutAt] at found
        split at found
        · cases found
          exact fun front rest _ => Nat.zero_le _
        · contradiction
    | cons letter text ih =>
        intro front rest same
        simp only [cutAt] at found
        split at found <;> rename_i here
        · cases found
          exact Nat.zero_le _
        · obtain ⟨⟨start, stop⟩, later, parts⟩ := Option.map_eq_some_iff.mp found
          cases parts
          cases front with
          | nil => exact absurd (List.isPrefixOf_iff_prefix.mpr ⟨rest, same.symm⟩) here
          | cons first front =>
              have shorter := ih later front rest (List.cons.inj same).2
              exact Nat.succ_le_succ shorter

theorem cutAt_eq_some_iff :
    cutAt key text = some (before, after) ↔ FirstAt key before after text := by
  refine ⟨firstAt_of_cutAt, fun placed => ?_⟩
  have occurs : key <:+: text := ⟨before, after, placed.whole.symm⟩
  cases found : cutAt key text with
  | none => exact absurd occurs (cutAt_eq_none_iff.mp found)
  | some parts =>
      obtain ⟨rfl, rfl⟩ := (firstAt_of_cutAt found).unique placed
      rfl

theorem after?_eq_some_iff :
    after? key text = some after ↔ ∃ before, FirstAt key before after text := by
  simp only [after?, Option.map_eq_some_iff, Prod.exists, cutAt_eq_some_iff, exists_eq_right]

theorem cutAt_mark_eq_some_iff :
    cutAt [mark] text = some (before, after) ↔ text = before ++ mark :: after ∧ mark ∉ before := by
  constructor
  · intro found
    obtain ⟨whole, first⟩ := firstAt_of_cutAt found
    refine ⟨by simpa using whole, fun inside => ?_⟩
    obtain ⟨front, rest, rfl⟩ := List.append_of_mem inside
    have shorter := first front (rest ++ mark :: after) (by simpa using whole)
    simp only [List.length_append, List.length_cons] at shorter
    omega
  · rintro ⟨rfl, free⟩
    exact cutAt_mark after free

theorem after?_mark_eq_some_iff :
    after? [mark] text = some after ↔ ∃ before, text = before ++ mark :: after ∧ mark ∉ before := by
  simp only [after?, Option.map_eq_some_iff, Prod.exists, cutAt_mark_eq_some_iff, exists_eq_right]

theorem before?_mark_eq_some_iff :
    before? [mark] text = some before ↔
      ∃ after, text = before ++ mark :: after ∧ mark ∉ before := by
  simp only [before?, Option.map_eq_some_iff, Prod.exists, cutAt_mark_eq_some_iff,
    exists_and_right, exists_eq_right]

/-! ## Longest runs -/

/-- The longest start of the text that is made of accepted letters. -/
structure LongestRun (accepts : Char → Bool) (text run : List Char) : Prop where
  starts : run <+: text
  accepted : ∀ letter ∈ run, accepts letter
  longest : ∀ other, other <+: text → (∀ letter ∈ other, accepts letter) → other <+: run

theorem longestRun_takeWhile (accepts : Char → Bool) (text : List Char) :
    LongestRun accepts text (text.takeWhile accepts) where
  starts := List.takeWhile_prefix accepts
  accepted _ := List.mem_takeWhile_imp
  longest := by
    rintro other ⟨rest, rfl⟩ accepted
    rw [List.takeWhile_append_of_pos accepted]
    exact List.prefix_append _ _

theorem takeWhile_eq_iff {accepts : Char → Bool} {run : List Char} :
    text.takeWhile accepts = run ↔ LongestRun accepts text run := by
  constructor
  · rintro rfl
    exact longestRun_takeWhile accepts text
  · intro longest
    have taken := longestRun_takeWhile accepts text
    have within := longest.longest _ taken.starts taken.accepted
    have beyond := taken.longest _ longest.starts longest.accepted
    exact within.eq_of_length_le beyond.length_le

end Text

open Text (FirstAt LongestRun)

/-! ## Lookups -/

namespace Record

variable {field : Field} {record value : List Char}

theorem valueText_eq_some_iff : valueText field record = some value ↔
    ∃ before gap, FirstAt field.key before (gap ++ ':' :: value) record ∧ ':' ∉ gap := by
  rw [valueText, Option.bind_eq_some_iff]
  constructor
  · rintro ⟨after, found, later⟩
    obtain ⟨before, placed⟩ := Text.after?_eq_some_iff.mp found
    obtain ⟨gap, rfl, free⟩ := Text.after?_mark_eq_some_iff.mp later
    exact ⟨before, gap, placed, free⟩
  · rintro ⟨before, gap, placed, free⟩
    exact ⟨_, Text.after?_eq_some_iff.mpr ⟨before, placed⟩,
      Text.after?_mark_eq_some_iff.mpr ⟨gap, rfl, free⟩⟩

theorem isSome_valueText_iff : (valueText field record).isSome ↔
    ∃ before after, FirstAt field.key before after record ∧ ':' ∈ after := by
  simp only [Option.isSome_iff_exists, valueText_eq_some_iff]
  constructor
  · rintro ⟨value, before, gap, placed, _⟩
    exact ⟨before, _, placed, by simp⟩
  · rintro ⟨before, after, placed, colon⟩
    obtain ⟨gap, value, rfl, free⟩ := List.eq_append_cons_of_mem colon
    exact ⟨value, before, gap, placed, free⟩

theorem string?_eq_some_iff {shown : List Char} : string? field record = some shown ↔
    ∃ value lead inside rest, valueText field record = some value ∧
      value = lead ++ '"' :: (inside ++ '"' :: rest) ∧ '"' ∉ lead ∧ '"' ∉ inside ∧
      shown = Text.trim inside := by
  simp only [string?, Option.bind_eq_bind, Option.bind_eq_some_iff, Text.after?_mark_eq_some_iff,
    Text.before?_mark_eq_some_iff, Option.pure_def, Option.some.injEq]
  constructor
  · rintro ⟨value, found, opened, ⟨lead, rfl, free⟩, inside, ⟨rest, rfl, freeInside⟩, rfl⟩
    exact ⟨_, lead, inside, rest, found, rfl, free, freeInside, rfl⟩
  · rintro ⟨value, lead, inside, rest, found, rfl, free, freeInside, rfl⟩
    exact ⟨_, found, _, ⟨lead, rfl, free⟩, inside, ⟨rest, rfl, freeInside⟩, rfl⟩

theorem run?_eq_some_iff {accepts : Char → Bool} {run : List Char} :
    run? accepts field record = some run ↔ ∃ value, valueText field record = some value ∧
      LongestRun accepts (Text.trimStart value) run ∧ run ≠ [] := by
  simp only [run?, Option.bind_eq_bind, Option.bind_eq_some_iff, Option.ite_none_left_eq_some,
    Option.some.injEq, ← Text.takeWhile_eq_iff, List.isEmpty_iff]
  constructor
  · rintro ⟨value, found, nonempty, rfl⟩
    exact ⟨value, found, rfl, nonempty⟩
  · rintro ⟨value, found, rfl, nonempty⟩
    exact ⟨value, found, nonempty, rfl⟩

/-! ## Lists -/

/-- The value with the text between the first opening bracket and the next closing one. -/
def Bracketed (value inside : List Char) : Prop :=
  ∃ lead rest, value = lead ++ '[' :: (inside ++ ']' :: rest) ∧ '[' ∉ lead ∧ ']' ∉ inside

/-- The item without the quotes around it, or as it is if there are not two of them. -/
inductive Unquoted : List Char → List Char → Prop
  | quoted (inside : List Char) : Unquoted ('"' :: (inside ++ ['"'])) inside
  | bare (item : List Char) (other : ∀ inside, item ≠ '"' :: (inside ++ ['"'])) : Unquoted item item

theorem unquoted_unquote (item : List Char) : Unquoted item (unquote item) := by
  by_cases pair : ∃ inside, item = '"' :: (inside ++ ['"'])
  · obtain ⟨inside, rfl⟩ := pair
    have same : unquote ('"' :: (inside ++ ['"'])) = inside := by simp [unquote]
    rw [same]
    exact .quoted inside
  · have same : unquote item = item := by
      fun_cases unquote item with
      | case1 rest closed =>
          obtain ⟨inside, rfl⟩ := List.getLast?_eq_some_iff.mp closed
          exact absurd ⟨inside, rfl⟩ pair
      | case2 rest _ => rfl
      | case3 => rfl
    rw [same]
    exact .bare item fun inside found => pair ⟨inside, found⟩

/-- The pieces of a text between its commas, and the item that each of them gives. -/
structure Itemized (inside : List Char) (pieces given : List (List Char)) : Prop where
  whole : [','].intercalate pieces = inside
  nonempty : pieces ≠ []
  free : ∀ piece ∈ pieces, ',' ∉ piece
  given : List.Forall₂ (fun piece item => Unquoted (Text.trim piece) item) pieces given

theorem exists_itemized (inside : List Char) :
    ∃ pieces given, Itemized inside pieces given ∧ itemsOf inside = given.filter (!·.isEmpty) := by
  refine ⟨inside.splitOn ',', _, ⟨List.intercalate_splitOn ',', ?_, ?_, ?_⟩, rfl⟩
  · rw [List.splitOn_eq_splitOnP]
    exact List.splitOnP_ne_nil _ _
  · intro piece listed comma
    rw [List.splitOn_eq_splitOnP] at listed
    exact absurd (Text.refused_of_mem_splitOnP piece listed ',' comma) (by decide)
  · rw [List.splitOn_eq_splitOnP, List.forall₂_map_right_iff]
    exact List.forall₂_same.mpr fun piece _ => unquoted_unquote _

theorem items_of_bracketed {inside : List Char} (found : valueText field record = some value)
    (bracketed : Bracketed value inside) : items field record = itemsOf inside := by
  obtain ⟨lead, rest, rfl, free, freeInside⟩ := bracketed
  exact items_of_valueText found (Text.after?_mark _ free) (Text.before?_mark rest freeInside)

theorem items_eq_nil
    (absent : ∀ value inside, valueText field record = some value → ¬Bracketed value inside) :
    items field record = [] := by
  unfold items
  dsimp only
  split
  · rfl
  · rename_i inside found
    simp only [Option.bind_eq_bind, Option.bind_eq_some_iff, Text.after?_mark_eq_some_iff,
      Text.before?_mark_eq_some_iff] at found
    obtain ⟨value, found, _, ⟨lead, rfl, free⟩, rest, rfl, freeInside⟩ := found
    exact absurd ⟨lead, rest, rfl, free, freeInside⟩ (absent _ inside found)

/-! ## What is found -/

/-- What each kind of lookup finds in a record. -/
structure Finds (field : Field) (record : List Char) : Prop where
  present : (valueText field record).isSome ↔
    ∃ before after, FirstAt field.key before after record ∧ ':' ∈ after
  value : ∀ value, valueText field record = some value ↔
    ∃ before gap, FirstAt field.key before (gap ++ ':' :: value) record ∧ ':' ∉ gap
  string : ∀ shown, string? field record = some shown ↔
    ∃ value lead inside rest, valueText field record = some value ∧
      value = lead ++ '"' :: (inside ++ '"' :: rest) ∧ '"' ∉ lead ∧ '"' ∉ inside ∧
      shown = Text.trim inside
  count : ∀ run, count? field record = some run ↔
    ∃ value, valueText field record = some value ∧
      LongestRun (fun letter => letter.isDigit || letter == '-') (Text.trimStart value) run ∧
      run ≠ []
  boolean : ∀ run, boolean? field record = some run ↔
    ∃ value, valueText field record = some value ∧
      LongestRun Text.isAlphabetic (Text.trimStart value) run ∧ run ≠ []
  listed : ∀ value inside, valueText field record = some value → Bracketed value inside →
    ∃ pieces given, Itemized inside pieces given ∧
      items field record = given.filter fun item => !item.isEmpty
  unlisted : (∀ value inside, valueText field record = some value → ¬Bracketed value inside) →
    items field record = []

theorem finds (field : Field) (record : List Char) : Finds field record where
  present := isSome_valueText_iff
  value _ := valueText_eq_some_iff
  string _ := string?_eq_some_iff
  count _ := run?_eq_some_iff
  boolean _ := run?_eq_some_iff
  listed value inside found bracketed := by
    rw [items_of_bracketed found bracketed]
    exact exists_itemized inside
  unlisted := items_eq_nil

/-! ## What does not matter -/

theorem valueText_congr {other before front after : List Char}
    (placed : FirstAt field.key before after record)
    (placedOther : FirstAt field.key front after other) :
    valueText field other = valueText field record := by
  rw [valueText, valueText, Text.after?_eq_some_iff.mpr ⟨before, placed⟩,
    Text.after?_eq_some_iff.mpr ⟨front, placedOther⟩]

theorem found_congr {other : List Char} (same : valueText field other = valueText field record) :
    string? field other = string? field record ∧ count? field other = count? field record ∧
      boolean? field other = boolean? field record ∧
      items field other = items field record := by
  simp only [string?, count?, boolean?, run?, Record.items, same, and_self]

/-- Every lookup is told by the first occurrence of the quoted name and by the marks behind it, and
the text in front of it can be any other that leaves it the first. -/
theorem lookups_told_behind_name (field : Field) (record : List Char) :
    Finds field record ∧
      ∀ before after front other, FirstAt field.key before after record →
        FirstAt field.key front after other →
        valueText field other = valueText field record ∧
          string? field other = string? field record ∧
          count? field other = count? field record ∧
          boolean? field other = boolean? field record ∧
          items field other = items field record :=
  ⟨finds field record, fun _ _ _ _ placed placedOther =>
    ⟨valueText_congr placed placedOther, found_congr (valueText_congr placed placedOther)⟩⟩

end Record

end Visa
