import Visa.Proofs.Layout

namespace Visa.Json.Literal

/-! The letters of a written literal. Escaping leaves braces alone, and every quote that it lets
through has a backslash in front of it, so a quoted name can end only at the quote that ends the
literal. -/

variable {text left right before name after rest : List Char} {letter brace : Char}

/-- A letter stands for itself, or is a quote, or its escape has neither quotes nor braces. -/
theorem escaped_cases (letter : Char) :
    (escaped letter = [letter] ∧ letter ≠ '"' ∧ letter ≠ '\\') ∨
    (letter = '"' ∧ escaped letter = ['\\', '"']) ∨
    (letter ∉ ['"', '{', '}'] ∧
      ∃ code, escaped letter = '\\' :: code ∧ ∀ mark ∈ ['"', '{', '}'], mark ∉ code) := by
  have coded {code : List Char} (plain : letter ∉ ['"', '{', '}'])
      (free : ['"', '{', '}'].all fun mark => !code.contains mark) :
      letter ∉ ['"', '{', '}'] ∧ ∃ other, '\\' :: code = '\\' :: other ∧
        ∀ mark ∈ ['"', '{', '}'], mark ∉ other :=
    ⟨plain, code, rfl, fun mark inside => by simpa using List.all_eq_true.mp free mark inside⟩
  unfold escaped
  split
  · exact .inr (.inl ⟨‹_›, rfl⟩)
  split
  · exact .inr (.inr (coded (by simp_all) (by decide)))
  split
  · exact .inr (.inr (coded (by simp_all) (by decide)))
  split
  · exact .inr (.inr (coded (by simp_all) (by decide)))
  split
  · exact .inr (.inr (coded (by simp_all) (by decide)))
  split
  · exact .inr (.inr (coded (by simp_all) (by decide)))
  split
  · exact .inr (.inr (coded (by simp_all) (by decide)))
  split <;> rename_i small
  · have every : ∀ code : Fin 32,
        ['"', '{', '}'].all fun mark => !(control code.val).tail.contains mark := by decide
    refine .inr (.inr (coded ?_ (every ⟨letter.toNat, small⟩)))
    intro inside
    simp only [List.mem_cons, List.not_mem_nil, or_false] at inside
    rcases inside with rfl | rfl | rfl <;> exact absurd small (by decide)
  · exact .inl ⟨rfl, ‹_›, ‹_›⟩

/-! ## Braces -/

theorem count_escaped (isBrace : brace ∈ ['{', '}']) (letter : Char) :
    (escaped letter).count brace = [letter].count brace := by
  have slash : brace ≠ '\\' := by
    rintro rfl
    exact absurd isBrace (by decide)
  have quote : brace ≠ '"' := by
    rintro rfl
    exact absurd isBrace (by decide)
  rcases escaped_cases letter with ⟨same, _⟩ | ⟨rfl, same⟩ | ⟨plain, code, same, free⟩
  · rw [same]
  · rw [same, List.count_eq_zero.mpr (by simp [slash, quote]),
      List.count_eq_zero.mpr (by simp [quote])]
  · have inMarks : brace ∈ ['"', '{', '}'] := List.mem_cons_of_mem _ isBrace
    have different : brace ≠ letter := fun equal => plain (equal ▸ inMarks)
    rw [same, List.count_eq_zero.mpr (by simp [slash, free brace inMarks]),
      List.count_eq_zero.mpr (by simp [different])]

theorem not_mem_tail_escaped (isBrace : brace ∈ ['{', '}']) (letter : Char) :
    brace ∉ (escaped letter).tail := by
  rcases escaped_cases letter with ⟨same, _⟩ | ⟨_, same⟩ | ⟨_, code, same, free⟩
  · simp [same]
  · rw [same, List.tail_cons, List.mem_singleton]
    rintro rfl
    exact absurd isBrace (by decide)
  · rw [same, List.tail_cons]
    exact free brace (List.mem_cons_of_mem _ isBrace)

theorem count_flatMap_escaped (isBrace : brace ∈ ['{', '}']) (text : List Char) :
    (text.flatMap escaped).count brace = text.count brace := by
  induction text with
  | nil => rfl
  | cons letter rest ih =>
      rw [List.flatMap_cons, List.count_append, count_escaped isBrace, ih, ← List.count_append,
        List.singleton_append]

/-- Wherever an escaped text is parted, its braces are parted as somewhere in the text. -/
theorem exists_split (parted : text.flatMap escaped = left ++ right) :
    ∃ first second, text = first ++ second ∧ ∀ brace ∈ ['{', '}'],
      left.count brace = first.count brace ∧ right.count brace = second.count brace := by
  induction text generalizing left with
  | nil =>
      obtain ⟨rfl, rfl⟩ := List.append_eq_nil_iff.mp parted.symm
      exact ⟨[], [], rfl, fun _ _ => ⟨rfl, rfl⟩⟩
  | cons letter text ih =>
      rw [List.flatMap_cons] at parted
      rcases List.append_eq_append_iff.mp parted with ⟨later, rfl, behind⟩ | ⟨beyond, here, rfl⟩
      · obtain ⟨first, second, rfl, same⟩ := ih behind
        refine ⟨letter :: first, second, rfl, fun brace isBrace => ⟨?_, (same brace isBrace).2⟩⟩
        rw [List.count_append, count_escaped isBrace, (same brace isBrace).1, ← List.count_append,
          List.singleton_append]
      -- The cut goes through one letter: a brace is on one side of it, an escape has none.
      · cases left with
        | nil =>
            refine ⟨[], letter :: text, rfl, fun brace isBrace => ⟨rfl, ?_⟩⟩
            rw [List.nil_append] at here
            rw [← here, ← List.flatMap_cons, count_flatMap_escaped isBrace]
        | cons start front =>
            refine ⟨[letter], text, rfl, fun brace isBrace => ?_⟩
            have total := count_escaped isBrace letter
            rw [here, List.count_append] at total
            rw [List.count_append, count_flatMap_escaped isBrace]
            have nothing : beyond.count brace = 0 := by
              have free := not_mem_tail_escaped isBrace letter
              rw [here, List.cons_append, List.tail_cons, List.mem_append, not_or] at free
              exact List.count_eq_zero.mpr free.2
            omega

/-! ## Quotes -/

theorem split_at_quote (parted : text.flatMap escaped = left ++ '"' :: right) :
    ∃ before after, text = before ++ '"' :: after ∧
      left = before.flatMap escaped ++ ['\\'] ∧ right = after.flatMap escaped := by
  obtain ⟨before, item, after, front, back, rfl, here, rfl, rfl⟩ := split_flatMap parted
  rcases escaped_cases item with ⟨same, plain, _⟩ | ⟨rfl, same⟩ | ⟨_, code, same, free⟩
  · obtain ⟨_, quote, _⟩ := split_singleton (same.symm.trans here)
    exact absurd quote.symm plain
  · rw [same] at here
    rcases List.cons_eq_append_iff.mp here with ⟨rfl, found⟩ | ⟨later, rfl, found⟩
    · cases found
    · obtain ⟨rfl, _, rfl⟩ := split_singleton found
      exact ⟨before, after, rfl, rfl, rfl⟩
  · rw [same] at here
    rcases List.cons_eq_append_iff.mp here with ⟨rfl, found⟩ | ⟨later, rfl, found⟩
    · cases found
    · exact absurd (by simp [found]) (free '"' List.mem_cons_self)

theorem flatMap_escaped_of_not_mem (free : '\\' ∉ text.flatMap escaped) :
    text.flatMap escaped = text := by
  induction text with
  | nil => rfl
  | cons letter rest ih =>
      rw [List.flatMap_cons, List.mem_append, not_or] at free
      rcases escaped_cases letter with ⟨same, _⟩ | ⟨_, same⟩ | ⟨_, code, same, _⟩
      · rw [List.flatMap_cons, same, ih free.2, List.singleton_append]
      · exact absurd (by simp [same]) free.1
      · exact absurd (by simp [same]) free.1

/-- A text that needs no escapes ends an escaped text, with a quote in front of it, if and only if
it ends the text so. -/
theorem suffix_flatMap_escaped_iff (unescaped : name.flatMap escaped = name)
    (slashFree : '\\' ∉ name) : '"' :: name <:+ text.flatMap escaped ↔ '"' :: name <:+ text := by
  constructor
  · rintro ⟨front, parted⟩
    obtain ⟨before, after, rfl, _, same⟩ := split_at_quote parted.symm
    rw [flatMap_escaped_of_not_mem (same ▸ slashFree)] at same
    exact ⟨before, by rw [same]⟩
  · rintro ⟨before, rfl⟩
    exact ⟨before.flatMap escaped ++ ['\\'], by simp [escaped, unescaped]⟩

/-- The closing quote of a name that is found in a literal closes the literal. -/
theorem eq_of_quotedName (slashFree : '\\' ∉ name) (quoteFree : '"' ∉ rest)
    (parted : before ++ Text.quotedName name ++ after = text.flatMap escaped ++ '"' :: rest) :
    text.flatMap escaped = before ++ '"' :: name ∧ after = rest := by
  have closing : text.flatMap escaped ++ '"' :: rest = (before ++ '"' :: name) ++ '"' :: after := by
    rw [← parted, Text.quotedName]
    simp
  rcases split_append closing with ⟨inside, literal, _⟩ | ⟨front, longer, behind⟩
  · -- Within the literal a backslash would stand in front of the quote.
    obtain ⟨_, _, _, backslash, _⟩ := split_at_quote literal
    have last := congrArg List.getLast? backslash
    rw [List.getLast?_append_of_ne_nil _ (List.cons_ne_nil _ _), List.getLast?_concat] at last
    rcases List.mem_cons.mp (List.mem_of_getLast? last) with quote | inName
    · exact absurd quote (by decide)
    · exact absurd inName slashFree
  · rcases List.cons_eq_append_iff.mp behind with ⟨rfl, found⟩ | ⟨more, rfl, found⟩
    · rw [List.append_nil] at longer
      exact ⟨longer.symm, (List.cons.inj found).2⟩
    · exact absurd (by simp [found]) quoteFree

end Visa.Json.Literal
