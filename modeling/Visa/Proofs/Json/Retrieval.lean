import Visa.Json.Decoding
import Visa.Proofs.Json.Rendering
import Visa.Proofs.Json.Scanning

namespace Visa.Json

/-! Written values read back. The scan takes a written value off the text token by token, whatever
follows it, and the stack machine puts the same value together from its tokens again. -/

/-! ## Numbers -/

namespace Number

variable {rest : List Char}

theorem head?_toDigits_ne_zero {value : Nat} (positive : 0 < value) :
    (Nat.toDigits 10 value).head? ≠ some '0' := by
  induction value using Nat.strongRecOn with
  | ind value ih =>
      by_cases small : value < 10
      · have nine : ∀ digit < 10, 0 < digit → (Nat.toDigits 10 digit).head? ≠ some '0' := by decide
        exact nine value small positive
      · have cut := Nat.toDigits_of_base_le (b := 10) (by decide) (Nat.le_of_not_lt small)
        rw [cut, List.head?_append_of_ne_nil _ Nat.toDigits_ne_nil]
        exact ih (value / 10) (by omega) (by omega)

theorem length_toDigits_of_zero {value : Nat} (zero : (Nat.toDigits 10 value).head? = some '0') :
    (Nat.toDigits 10 value).length = 1 := by
  rcases Nat.eq_zero_or_pos value with rfl | positive
  · rfl
  · exact absurd zero (head?_toDigits_ne_zero positive)

theorem isDigit_of_mem_toDigits {value : Nat} :
    ∀ letter ∈ Nat.toDigits 10 value, letter.isDigit := fun _ =>
  Nat.isDigit_of_mem_toDigits (by decide) (by decide)

theorem exists_toDigits (value : Nat) :
    ∃ digit run, Nat.toDigits 10 value = digit :: run ∧ digit.isDigit := by
  cases found : Nat.toDigits 10 value with
  | nil => exact absurd found Nat.toDigits_ne_nil
  | cons digit run =>
      have inside : digit ∈ Nat.toDigits 10 value := by simp [found]
      exact ⟨digit, run, rfl, isDigit_of_mem_toDigits digit inside⟩

/-- A natural number as a literal. -/
def ofNatural (value : Nat) : Numeral where
  isNegative := false
  whole := ⟨Nat.toDigits 10 value, Nat.toDigits_ne_nil,
    List.all_eq_true.mpr isDigit_of_mem_toDigits⟩
  canonical := length_toDigits_of_zero
  fraction := none
  exponent := none

theorem scan_toDigits {value : Nat} (small : value ≤ Significand.limit) (closed : Closed rest) :
    scan (Nat.toDigits 10 value ++ rest) = .ok (.natural value, rest) := by
  have text : (ofNatural value).text = Nat.toDigits 10 value := List.append_nil _
  have read : ofParts (ofNatural value).parts = .natural value := by
    simp [ofNatural, Numeral.parts, ofParts, ofInteger, Nat.ofDigitChars_toDigits,
      Nat.not_lt.mpr small]
  rw [← text, scan_text _ closed, read]

end Number

/-! ## Tokens -/

theorem Literal.length_le_of_skip {text rest : List Char} (found : skip text = .ok rest) :
    rest.length ≤ text.length := by
  fun_induction skip text with
  | case2 =>
      cases found
      simp
  | case3 _ _ _ _ _ _ _ ih | case6 _ _ _ _ _ _ ih | case10 _ _ _ _ _ _ _ _ ih =>
      have shorter := ih found
      simp only [List.length_cons]
      omega
  | _ => contradiction

namespace Token

open Number (Closed)

variable {letter : Char} {text rest : List Char} {fuel : Nat}

theorem length_ofWord_le (token : Token) (letters text : List Char) :
    (ofWord token letters text).2.length ≤ text.length := by
  unfold ofWord
  cases found : word letters text with
  | error flaw => exact Nat.zero_le _
  | ok rest => simp [eq_append_of_word found]

theorem length_ofLiteral_le (text : List Char) : (ofLiteral text).2.length ≤ text.length := by
  unfold ofLiteral
  cases found : Literal.skip text with
  | error flaw => exact Nat.zero_le _
  | ok rest => exact Literal.length_le_of_skip found

theorem length_ofNumber_le (letter : Char) (text : List Char) :
    (ofNumber (letter :: text)).2.length ≤ text.length := by
  unfold ofNumber
  cases found : Number.scan (letter :: text) with
  | error flaw => cases flaw <;> exact Nat.zero_le _
  | ok result =>
      obtain ⟨value, rest⟩ := result
      obtain ⟨literal, same, nonempty, _⟩ := Number.exists_append_of_scan found
      have length := congrArg List.length same
      have positive := List.length_pos_iff.mpr nonempty
      simp only [List.length_cons, List.length_append] at length
      dsimp only
      omega

theorem length_step_le (letter : Char) (text : List Char) :
    (step letter text).2.length ≤ text.length := by
  unfold step
  cases punctuation? letter with
  | some token => exact Nat.le_refl _
  | none =>
      dsimp only
      split
      · exact length_ofLiteral_le text
      split
      · exact length_ofWord_le _ _ _
      split
      · exact length_ofWord_le _ _ _
      split
      · exact length_ofWord_le _ _ _
      split
      · exact length_ofNumber_le letter text
      · exact Nat.zero_le _

/-- More fuel than a text has characters changes nothing. -/
theorem scan_eq_ofText (enough : text.length ≤ fuel) : scan fuel text = ofText text := by
  have same : ∀ (fewer more : Nat) (text : List Char), text.length ≤ fewer → text.length ≤ more →
      scan fewer text = scan more text := by
    intro fewer
    induction fewer with
    | zero =>
        intro more text none _
        cases List.length_eq_zero_iff.mp (Nat.le_zero.mp none)
        cases more <;> rfl
    | succ fewer ih =>
        intro more text few many
        cases text with
        | nil => cases more <;> rfl
        | cons letter text =>
            simp only [List.length_cons] at few many
            obtain ⟨more, rfl⟩ := Nat.exists_eq_add_one_of_ne_zero (by omega : more ≠ 0)
            have shorter := length_step_le letter text
            simp only [scan]
            rw [ih more text (by omega) (by omega),
              ih more (step letter text).2 (by omega) (by omega)]
  exact same fuel text.length text enough (Nat.le_refl _)

theorem ofText_space (blank : isSpace letter) : ofText (letter :: rest) = ofText rest := by
  rw [ofText, List.length_cons, scan, if_pos blank, ofText]

theorem ofText_step (rest : List Char) (solid : isSpace letter = false) :
    ofText (letter :: rest) = (step letter rest).1 :: ofText (step letter rest).2 := by
  rw [ofText, List.length_cons, scan, if_neg (by simp [solid])]
  dsimp only
  rw [scan_eq_ofText (length_step_le letter rest)]

theorem ofText_space_append {space : List Char} (rest : List Char) (blank : AllSpace space) :
    ofText (space ++ rest) = ofText rest := by
  induction space with
  | nil => rfl
  | cons letter space ih =>
      obtain ⟨first, later⟩ := List.forall_mem_cons.mp blank
      rw [List.cons_append, ofText_space first, ih later]

theorem word_append (letters rest : List Char) : word letters (letters ++ rest) = .ok rest := by
  induction letters with
  | nil => rfl
  | cons letter letters ih => rw [List.cons_append, word, if_pos rfl, ih]

theorem ofWord_append (token : Token) (letters rest : List Char) :
    ofWord token letters (letters ++ rest) = (token, rest) := by
  rw [ofWord, word_append]

theorem ofText_null : ofText ("null".toList ++ rest) = .null :: ofText rest := by
  have taken : step 'n' ("ull".toList ++ rest) = ofWord .null "ull".toList ("ull".toList ++ rest) :=
    rfl
  rw [ofWord_append] at taken
  have first : ofText ('n' :: ("ull".toList ++ rest)) = _ := ofText_step _ rfl
  rwa [taken] at first

theorem ofText_bool (value : Bool) (rest : List Char) :
    ofText (boolText value ++ rest) = .bool value :: ofText rest := by
  cases value with
  | true =>
      have taken : step 't' ("rue".toList ++ rest) =
          ofWord (.bool true) "rue".toList ("rue".toList ++ rest) := rfl
      rw [ofWord_append] at taken
      have first : ofText ('t' :: ("rue".toList ++ rest)) = _ := ofText_step _ rfl
      rwa [taken] at first
  | false =>
      have taken : step 'f' ("alse".toList ++ rest) =
          ofWord (.bool false) "alse".toList ("alse".toList ++ rest) := rfl
      rw [ofWord_append] at taken
      have first : ofText ('f' :: ("alse".toList ++ rest)) = _ := ofText_step _ rfl
      rwa [taken] at first

theorem ofText_mark {mark : Token} (rest : List Char) (isMark : punctuation? letter = some mark)
    (solid : isSpace letter = false) : ofText (letter :: rest) = mark :: ofText rest := by
  rw [ofText_step rest solid, step, isMark]

theorem ofText_literal (text rest : List Char) :
    ofText (Literal.write text ++ rest) =
      .string ⟨.ok (String.ofList text), none⟩ :: ofText rest := by
  have cut : Literal.write text ++ rest =
      '"' :: (text.flatMap Literal.escaped ++ '"' :: rest) := by
    simp [Literal.write]
  rw [cut, ofText_step _ rfl]
  have step_eq : step '"' (text.flatMap Literal.escaped ++ '"' :: rest) =
      ofLiteral (text.flatMap Literal.escaped ++ '"' :: rest) := rfl
  rw [step_eq, ofLiteral, Literal.skip_write, Literal.read_write]
  rfl

theorem step_of_isDigit (digit : letter.isDigit) :
    step letter rest = ofNumber (letter :: rest) := by
  have differs : ∀ other : Char, other.isDigit = false → letter ≠ other := by
    rintro other noDigit rfl
    rw [digit] at noDigit
    contradiction
  have unmarked : punctuation? letter = none := by
    simp [punctuation?, differs '[' rfl, differs ']' rfl, differs '\x7b' rfl, differs '\x7d' rfl,
      differs ',' rfl, differs ':' rfl]
  simp [step, unmarked, differs '"' rfl, differs 'n' rfl, differs 't' rfl, differs 'f' rfl, digit]

theorem ofText_number {value : Nat} (small : value ≤ Significand.limit) (closed : Closed rest) :
    ofText (Nat.toDigits 10 value ++ rest) = .number (.natural value) :: ofText rest := by
  obtain ⟨digit, run, first, isDigit⟩ := Number.exists_toDigits value
  have scanned := Number.scan_toDigits small closed
  have solid : isSpace digit = false := by
    rw [Bool.eq_false_iff]
    intro space
    simp only [isSpace, Bool.or_eq_true, beq_iff_eq] at space
    rcases space with ((rfl | rfl) | rfl) | rfl <;> contradiction
  rw [first, List.cons_append] at scanned ⊢
  rw [ofText_step _ solid, step_of_isDigit isDigit, ofNumber, scanned]

end Token

/-! ## Values -/

namespace Value

open Draft (Frame State place)
open Number (Closed)
open Token (AllSpace)

/-- Every number of the value is one that reading gives back as it is. -/
inductive Moderate : Value → Prop
  | null : Moderate .null
  | bool (value : Bool) : Moderate (.bool value)
  | number {value : Nat} (small : value ≤ Significand.limit) : Moderate (.number value)
  | string (text : String) : Moderate (.string text)
  | list {items : List Value} (each : ∀ item ∈ items, Moderate item) : Moderate (.list items)
  | object {members : List (String × Value)} (each : ∀ member ∈ members, Moderate member.2) :
      Moderate (.object members)

variable {rest : List Char} {level : Nat}

theorem ofText_newline (level : Nat) (rest : List Char) :
    Token.ofText (newline level ++ rest) = Token.ofText rest :=
  Token.ofText_space_append rest (allSpace_newline level)

theorem closed_newline (level : Nat) (rest : List Char) : Closed (newline level ++ rest) := rfl

theorem closed_writeItems (level : Nat) (items : List Value) (closed : Closed rest) :
    Closed (writeItems level items ++ rest) := by
  cases items with
  | nil => exact closed
  | cons item items => rfl

theorem closed_writeMembers (level : Nat) (members : List (String × Value))
    (closed : Closed rest) :
    Closed (writeMembers level members ++ rest) := by
  cases members with
  | nil => exact closed
  | cons member members => rfl

/-- The tokens of a value are taken off the text, whatever stands behind it. -/
def Leads (level : Nat) (value : Value) : Prop :=
  ∀ rest, Closed rest →
    Token.ofText (value.write level ++ rest) = value.draft.tokens ++ Token.ofText rest

theorem ofText_writeItems {items : List Value} (each : ∀ item ∈ items, Leads level item)
    (closed : Closed rest) :
    Token.ofText (writeItems level items ++ rest) =
      ((items.map fun item => item.draft.tokens).flatMap fun later => .comma :: later) ++
        Token.ofText rest := by
  induction items with
  | nil => rfl
  | cons item items ih =>
      obtain ⟨first, later⟩ := List.forall_mem_cons.mp each
      have item := first (writeItems level items ++ rest) (closed_writeItems level items closed)
      rw [writeItems]
      simp only [List.cons_append, List.append_assoc, List.map_cons, List.flatMap_cons]
      rw [Token.ofText_mark _ rfl rfl, ofText_newline, item, ih later]

theorem ofText_member {item : Value} (key : String) (leads : Leads level item)
    (closed : Closed rest) :
    Token.ofText (Literal.write key.toList ++ [':', ' '] ++ item.write level ++ rest) =
      .string ⟨.ok key, none⟩ :: .colon :: (item.draft.tokens ++ Token.ofText rest) := by
  simp only [List.append_assoc, List.cons_append, List.nil_append]
  rw [Token.ofText_literal, Token.ofText_mark _ rfl rfl, Token.ofText_space rfl, leads rest closed,
    String.ofList_toList]

theorem ofText_writeMembers {members : List (String × Value)}
    (each : ∀ member ∈ members, Leads level member.2) (closed : Closed rest) :
    Token.ofText (writeMembers level members ++ rest) =
      ((Draft.memberTokens (memberDrafts members)).flatMap fun later => .comma :: later) ++
        Token.ofText rest := by
  induction members with
  | nil => rfl
  | cons member members ih =>
      obtain ⟨key, item⟩ := member
      obtain ⟨first, later⟩ := List.forall_mem_cons.mp each
      have entry := ofText_member key first
        (closed_writeMembers level members closed)
      rw [writeMembers, memberDrafts, Draft.memberTokens]
      simp only [List.append_assoc, List.cons_append, List.nil_append, Draft.tokens,
        List.flatMap_cons] at entry ⊢
      rw [Token.ofText_mark _ rfl rfl, ofText_newline, entry, ih later]

theorem Moderate.leads {value : Value} (moderate : value.Moderate) (level : Nat) :
    Leads level value := by
  induction moderate generalizing level with
  | null => exact fun rest _ => Token.ofText_null
  | bool value =>
      intro rest _
      have taken := Token.ofText_bool value rest
      cases value <;> exact taken
  | number small => exact fun rest closed => Token.ofText_number small closed
  | string text =>
      intro rest _
      have taken := Token.ofText_literal text.toList rest
      rwa [String.ofList_toList] at taken
  | @list items each ih =>
      intro rest closed
      cases items with
      | nil =>
          have opened := @Token.ofText_mark '[' .listOpen (']' :: rest) rfl rfl
          rwa [Token.ofText_mark _ rfl rfl] at opened
      | cons item items =>
          obtain ⟨first, later⟩ := List.forall_mem_cons.mp fun other inside =>
            ih other inside (level + 1)
          have after : Closed (newline level ++ ']' :: rest) := closed_newline level _
          have tail := ofText_writeItems later after
          have head := first _ (closed_writeItems (level + 1) items after)
          rw [write, draft, Draft.tokens, Draft.itemTokens_eq_map, itemDrafts_eq_map, List.map_map,
            List.map_cons, Draft.separated_cons]
          simp only [List.cons_append, List.append_assoc, List.nil_append, Function.comp_def]
          rw [Token.ofText_mark _ rfl rfl, ofText_newline, head, tail, ofText_newline,
            Token.ofText_mark _ rfl rfl]
  | @object members each ih =>
      intro rest closed
      cases members with
      | nil =>
          have opened := @Token.ofText_mark '\x7b' .objectOpen ('\x7d' :: rest) rfl rfl
          rwa [Token.ofText_mark _ rfl rfl] at opened
      | cons member members =>
          obtain ⟨key, item⟩ := member
          obtain ⟨first, later⟩ := List.forall_mem_cons.mp fun other inside =>
            ih other inside (level + 1)
          have after : Closed (newline level ++ '\x7d' :: rest) := closed_newline level _
          have tail := ofText_writeMembers later after
          have head := ofText_member key first
            (closed_writeMembers (level + 1) members after)
          rw [write, draft, Draft.tokens, memberDrafts, Draft.memberTokens, Draft.separated_cons]
          simp only [List.cons_append, List.append_assoc, List.nil_append, Draft.tokens] at head ⊢
          rw [Token.ofText_mark _ rfl rfl, ofText_newline, head, tail, ofText_newline,
            Token.ofText_mark _ rfl rfl]

/-! ## The stack machine -/

/-- Going over the tokens of a value places its draft. -/
def Placed (value : Value) : Prop :=
  ∀ frames, value.draft.tokens.foldl Draft.step (.reading frames .value) = place value.draft frames

/-- A value may as well be the first item: its first token does not close a list. -/
theorem foldl_firstItem (value : Value) (frames : List Frame) :
    value.draft.tokens.foldl Draft.step (.reading frames .firstItem) =
      value.draft.tokens.foldl Draft.step (.reading frames .value) := by
  cases value <;> rfl

theorem foldl_items {items : List Value} (each : ∀ item ∈ items, item.Placed)
    (earlier : List Draft) (frames : List Frame) :
    ((items.map fun item => item.draft.tokens).flatMap fun later => .comma :: later).foldl
        Draft.step (.reading (.list earlier :: frames) .continuation) =
      .reading (.list ((items.map draft).reverse ++ earlier) :: frames) .continuation := by
  induction items generalizing earlier with
  | nil => rfl
  | cons item items ih =>
      obtain ⟨first, later⟩ := List.forall_mem_cons.mp each
      have comma : Draft.step (.reading (.list earlier :: frames) .continuation) .comma =
          .reading (.list earlier :: frames) .value := rfl
      rw [List.map_cons, List.flatMap_cons, List.foldl_append, List.foldl_cons, comma, first,
        place, ih later, List.map_cons, List.reverse_cons, List.append_assoc]
      rfl

theorem foldl_member {item : Value} {due : Draft.Due} (key : String) (placed : item.Placed)
    (isKey : due = .firstKey ∨ due = .key) (earlier : List (Draft × Draft))
    (frames : List Frame) :
    (.string ⟨.ok key, none⟩ :: .colon :: item.draft.tokens).foldl Draft.step
        (.reading (.object earlier :: frames) due) =
      .reading (.object ((.string ⟨.ok key, none⟩, item.draft) :: earlier) :: frames)
        .continuation := by
  have opened : (.string ⟨.ok key, none⟩ :: .colon :: item.draft.tokens).foldl Draft.step
      (.reading (.object earlier :: frames) due) =
      item.draft.tokens.foldl Draft.step
        (.reading (.member earlier (.string ⟨.ok key, none⟩) :: frames) .value) := by
    rcases isKey with rfl | rfl <;> rfl
  rw [opened, placed, place]

theorem foldl_members {members : List (String × Value)}
    (each : ∀ member ∈ members, member.2.Placed) (earlier : List (Draft × Draft))
    (frames : List Frame) :
    ((Draft.memberTokens (memberDrafts members)).flatMap fun later => .comma :: later).foldl
        Draft.step (.reading (.object earlier :: frames) .continuation) =
      .reading (.object ((memberDrafts members).reverse ++ earlier) :: frames) .continuation := by
  induction members generalizing earlier with
  | nil => rfl
  | cons member members ih =>
      obtain ⟨key, item⟩ := member
      obtain ⟨first, later⟩ := List.forall_mem_cons.mp each
      have comma : Draft.step (.reading (.object earlier :: frames) .continuation) .comma =
          .reading (.object earlier :: frames) .key := rfl
      have entry := foldl_member key first (.inr rfl) earlier frames
      rw [memberDrafts, Draft.memberTokens, Draft.tokens, List.flatMap_cons, List.foldl_append,
        List.foldl_cons, comma, List.singleton_append, entry, ih later, List.reverse_cons,
        List.append_assoc]
      rfl

theorem Moderate.placed {value : Value} (moderate : value.Moderate) : value.Placed := by
  induction moderate with
  | null => exact fun frames => rfl
  | bool value => exact fun frames => rfl
  | number small => exact fun frames => rfl
  | string text => exact fun frames => rfl
  | @list items each ih =>
      intro frames
      rw [draft, Draft.tokens, Draft.itemTokens_eq_map, itemDrafts_eq_map, List.map_map]
      cases items with
      | nil => rfl
      | cons item items =>
          obtain ⟨first, later⟩ := List.forall_mem_cons.mp ih
          have opened : Draft.step (.reading frames .value) .listOpen =
              .reading (.list [] :: frames) .firstItem := rfl
          rw [List.map_cons, Draft.separated_cons, List.foldl_cons, opened]
          simp only [List.append_assoc, Function.comp_def]
          rw [List.foldl_append, foldl_firstItem, first, place, List.foldl_append,
            foldl_items later]
          simp [Draft.step, Draft.continuation]
  | @object members each ih =>
      intro frames
      rw [draft, Draft.tokens]
      cases members with
      | nil => rfl
      | cons member members =>
          obtain ⟨key, item⟩ := member
          obtain ⟨first, later⟩ := List.forall_mem_cons.mp ih
          have opened : Draft.step (.reading frames .value) .objectOpen =
              .reading (.object [] :: frames) .firstKey := rfl
          have entry := foldl_member key first (.inl rfl) [] frames
          rw [memberDrafts, Draft.memberTokens, Draft.separated_cons, List.foldl_cons, opened,
            Draft.tokens, List.singleton_append, List.append_assoc, List.foldl_append, entry,
            List.foldl_append, foldl_members later]
          simp [Draft.step, Draft.continuation]

/-- A written value is read as its draft, and white space may follow it. -/
theorem Moderate.ofText_render {value : Value} (moderate : value.Moderate) {space : List Char}
    (blank : AllSpace space) : Draft.ofText (value.render ++ space) = (value.draft, false) := by
  have closed : Closed space := by
    cases space with
    | nil => trivial
    | cons letter rest =>
        have first := (List.forall_mem_cons.mp blank).1
        simp only [Token.isSpace, Bool.or_eq_true, beq_iff_eq] at first
        rcases first with ((rfl | rfl) | rfl) | rfl <;> rfl
  have ended : Token.ofText space = [] := by
    have spaced := Token.ofText_space_append [] blank
    rwa [List.append_nil] at spaced
  rw [Draft.ofText, render, moderate.leads 0 space closed, ended, List.append_nil, Draft.start,
    moderate.placed]
  rfl

theorem Moderate.decodeText_render {α : Type} {value : Value} {space : List Char}
    (decoder : Decoder α) (moderate : value.Moderate) (blank : AllSpace space) :
    decodeText decoder (value.render ++ space) = decoder value.draft := by
  rw [decodeText, moderate.ofText_render blank]
  dsimp only
  cases decoder value.draft <;> rfl

end Value

end Visa.Json
