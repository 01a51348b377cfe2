import Visa.Proofs.Json.Spelling

namespace Visa.Json

/-! A text without backslashes that is cut into tokens to its end is spelled by these tokens: each
step of the scan takes a written form of its token off the text. -/

namespace Literal

/-- Without backslashes both ways to go over a literal end at the next quote, or both fail. -/
theorem skip_read_of_plain {text : List Char} (plain : '\\' ∉ text) :
    (∃ inside rest, text = inside ++ '"' :: rest ∧ '"' ∉ inside ∧ skip text = .ok rest ∧
      read none text = .ok inside) ∨
    ∃ flaw, skip text = .error flaw ∧ read none text = .error flaw := by
  induction text with
  | nil => exact .inr ⟨.truncated, rfl, rfl⟩
  | cons letter text ih =>
      simp only [List.mem_cons, not_or] at plain
      by_cases quote : letter = '"'
      · subst quote
        exact .inl ⟨[], text, rfl, by simp, by rw [skip], by rw [read]⟩
      · have backslash : letter ≠ '\\' := Ne.symm plain.1
        have skipped : skip (letter :: text) =
            if isControl letter then .error .malformed else skip text := by
          rw [skip] <;> simp [quote, backslash]
        have readOn : read none (letter :: text) =
            if isControl letter then .error .malformed
            else (read none text).map fun text => letter :: text := by
          rw [read] <;> simp [quote, backslash]
        rw [skipped, readOn]
        by_cases control : isControl letter
        · exact .inr ⟨.malformed, if_pos control, if_pos control⟩
        · rw [if_neg control, if_neg control]
          rcases ih plain.2 with ⟨inside, rest, rfl, free, skippedRest, readRest⟩ | failed
          · refine .inl ⟨letter :: inside, rest, rfl, ?_, skippedRest, by rw [readRest]; rfl⟩
            simp [free, Ne.symm quote]
          · obtain ⟨flaw, skippedRest, readRest⟩ := failed
            exact .inr ⟨flaw, skippedRest, by rw [readRest]; rfl⟩

end Literal

namespace Token

/-- No flaw ends the text in this token. Either of the two ways over a literal may be the one that
found none. -/
def Sound : Token → Prop
  | .string text => text.ending = none ∨ ∃ value, text.value = .ok value
  | .unfinished | .flawed _ => False
  | _ => True

variable {letter : Char} {text rest : List Char} {token : Token}

theorem mark?_of_punctuation? (found : punctuation? letter = some token) :
    token.mark? = some letter := by
  unfold punctuation? at found
  repeat' split at found
  all_goals first | (cases found; simp [mark?, *]) | contradiction

theorem eq_append_of_word {letters : List Char} (found : word letters text = .ok rest) :
    text = letters ++ rest := by
  induction letters generalizing text with
  | nil => cases found; rfl
  | cons expected more ih =>
      cases text with
      | nil => contradiction
      | cons letter text =>
          simp only [word] at found
          split at found
          · rename_i same
            rw [same, ih found, List.cons_append]
          · contradiction

theorem exists_lexeme_of_ofWord {letters : List Char} (form : Lexeme token (letter :: letters))
    (sound : (ofWord token letters text).1.Sound) :
    ∃ lexeme, letter :: text = lexeme ++ (ofWord token letters text).2 ∧
      Lexeme (ofWord token letters text).1 lexeme := by
  unfold ofWord at sound ⊢
  cases found : word letters text with
  | error flaw => rw [found] at sound; exact sound.elim
  | ok rest => exact ⟨_, by rw [eq_append_of_word found, List.cons_append], form⟩

theorem exists_lexeme_of_ofLiteral (plain : '\\' ∉ text) (sound : (ofLiteral text).1.Sound) :
    ∃ lexeme, '"' :: text = lexeme ++ (ofLiteral text).2 ∧ Lexeme (ofLiteral text).1 lexeme := by
  unfold ofLiteral at sound ⊢
  rcases Literal.skip_read_of_plain plain with ⟨inside, rest, same, free, skipped, read⟩ | failed
  · rw [skipped, read]
    exact ⟨_, by simp [same], .string free⟩
  · obtain ⟨flaw, skipped, read⟩ := failed
    rw [skipped, read] at sound
    rcases sound with none | ⟨value, found⟩ <;> contradiction

theorem exists_lexeme_of_ofNumber (sound : (ofNumber text).1.Sound) :
    ∃ lexeme, text = lexeme ++ (ofNumber text).2 ∧ Lexeme (ofNumber text).1 lexeme := by
  unfold ofNumber at sound ⊢
  cases found : Number.scan text with
  | error flaw => rw [found] at sound; cases flaw <;> exact sound.elim
  | ok result =>
      obtain ⟨value, rest⟩ := result
      obtain ⟨literal, same, nonempty, numerals, decimal, started⟩ :=
        Number.exists_append_of_scan found
      exact ⟨literal, same, .number nonempty numerals decimal started⟩

theorem exists_lexeme_of_step (plain : '\\' ∉ text) (sound : (step letter text).1.Sound) :
    ∃ lexeme, letter :: text = lexeme ++ (step letter text).2 ∧
      Lexeme (step letter text).1 lexeme ∧ lexeme ≠ [] := by
  suffices taken : ∃ lexeme, letter :: text = lexeme ++ (step letter text).2 ∧
      Lexeme (step letter text).1 lexeme by
    obtain ⟨lexeme, same, form⟩ := taken
    exact ⟨lexeme, same, form, form.ne_nil⟩
  revert sound
  unfold step
  cases found : punctuation? letter with
  | some token =>
      intro _
      exact ⟨[letter], rfl, .mark (mark?_of_punctuation? found)⟩
  | none =>
      simp only
      split
      · rename_i quote
        subst quote
        exact exists_lexeme_of_ofLiteral plain
      split
      · rename_i first
        subst first
        exact exists_lexeme_of_ofWord .null
      split
      · rename_i first
        subst first
        exact exists_lexeme_of_ofWord (.bool true)
      split
      · rename_i first
        subst first
        exact exists_lexeme_of_ofWord (.bool false)
      split
      · exact exists_lexeme_of_ofNumber
      · exact False.elim

theorem spelled_scan {fuel : Nat} (enough : text.length ≤ fuel) (plain : '\\' ∉ text)
    (sound : ∀ token ∈ scan fuel text, token.Sound) :
    ∃ body space, text = body ++ space ∧ Spelled (scan fuel text) body ∧ AllSpace space := by
  induction fuel generalizing text with
  | zero =>
      have empty : text = [] := List.length_eq_zero_iff.mp (Nat.le_zero.mp enough)
      subst empty
      exact ⟨[], [], rfl, .nil, .nil⟩
  | succ fuel ih =>
      cases text with
      | nil => exact ⟨[], [], rfl, .nil, .nil⟩
      | cons letter text =>
          simp only [List.mem_cons, not_or] at plain
          simp only [List.length_cons] at enough
          simp only [scan] at sound ⊢
          by_cases blank : isSpace letter
          · simp only [blank, if_true] at sound ⊢
            obtain ⟨body, space, rfl, spelled, allSpace⟩ := ih (by omega) plain.2 sound
            -- The space belongs to the next token, or to the end of the text if there is none.
            cases tokens : scan fuel (body ++ space) with
            | nil =>
                rw [tokens] at spelled
                have empty := spelled.eq_nil
                subst empty
                have lead : AllSpace [letter] := List.forall_mem_singleton.mpr blank
                exact ⟨[], letter :: space, rfl, .nil, lead.append allSpace⟩
            | cons token more =>
                rw [tokens] at spelled
                have lead : AllSpace [letter] := List.forall_mem_singleton.mpr blank
                exact ⟨letter :: body, space, rfl, spelled.space_append lead (by simp), allSpace⟩
          · simp only [blank, Bool.false_eq_true, if_false] at sound ⊢
            obtain ⟨lexeme, same, form, nonempty⟩ :=
              exists_lexeme_of_step plain.2 (sound _ List.mem_cons_self)
            have shorter := congrArg List.length same
            have positive := List.length_pos_iff.mpr nonempty
            simp only [List.length_cons, List.length_append] at shorter
            have plainRest : '\\' ∉ (step letter text).2 := by
              intro member
              have inText : '\\' ∈ letter :: text := by
                rw [same]
                exact List.mem_append_right _ member
              rcases List.mem_cons.mp inText with first | later
              · exact plain.1 first
              · exact plain.2 later
            obtain ⟨body, space, split, spelled, allSpace⟩ := ih (by omega) plainRest
              (fun token member => sound token (List.mem_cons_of_mem _ member))
            refine ⟨lexeme ++ body, space, by rw [same, split, List.append_assoc], ?_, allSpace⟩
            exact .cons .nil form spelled

/-- What is left of the text behind the last token is white space. -/
theorem spelled_ofText (plain : '\\' ∉ text) (sound : ∀ token ∈ ofText text, token.Sound) :
    ∃ body space, text = body ++ space ∧ Spelled (ofText text) body ∧ AllSpace space :=
  spelled_scan (Nat.le_refl _) plain sound

end Token

end Visa.Json
