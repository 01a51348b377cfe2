import Visa.Proofs.Missing

namespace Visa

/-! Texts that show nothing for a field: no token, no count, no list. -/

open Record (Field)
open Text (quotedName)

namespace Record

variable {record gap solid rest : List Char} {field : Field} {first : Char}

theorem documents_eq_nil {documents : List Document} (nothing : items .documents record = [])
    (shown : Shows record .documents documents) : documents = [] := by
  have listed : [] = documents.map fun document => (Vocabulary.token document).toList :=
    nothing.symm.trans shown
  exact List.map_eq_nil_iff.mp listed.symm

theorem eq_of_valueText_eq_none {other : Rule} (missing : valueText field record = none)
    (shown : Shows record field (other.part field)) :
    field = .documents ∧ other.documents = [] := by
  cases field with
  | destination | passport | purpose | category | kind =>
      simp [Shows, ShowsToken, string?, missing] at shown
  | maxStay | processing =>
      obtain ⟨text, found, _⟩ := shown
      simp [count?, run?, missing] at found
  | visaRequired =>
      obtain ⟨text, found, _⟩ := shown
      simp [boolean?, run?, missing] at found
  | documents =>
      exact ⟨rfl, documents_eq_nil (items_of_valueText_eq_none missing) shown⟩

theorem run?_eq_none {accepts : Char → Bool}
    (found : valueText field record = some (' ' :: first :: rest))
    (solid : Text.isBlank first = false) (refused : accepts first = false) :
    run? accepts field record = none := by
  have blank : Text.isBlank ' ' = true := by decide
  have started : Text.trimStart (' ' :: first :: rest) = first :: rest := by
    simp [Text.trimStart, blank, solid]
  simp [run?, found, started, refused]

theorem ShowsToken.token_eq {α β : Type} [Vocabulary α] [Vocabulary β] {left : α} {right : β}
    (first : ShowsToken field record left) (second : ShowsToken field record right) :
    Vocabulary.token left = Vocabulary.token right :=
  String.toList_inj.mp (Option.some.inj (first.symm.trans second))

section Tokens

variable {α : Type} [Vocabulary α] [Vocabulary.Capital α] {member : α}

theorem not_showsToken_of_comma (gap solid : List Char)
    (found : valueText field record = some (gap ++ '"' :: (solid ++ ',' :: rest)))
    (gapFree : '"' ∉ gap) (solidFree : '"' ∉ solid) : ¬ShowsToken field record member := by
  intro shown
  rw [ShowsToken, string?, found] at shown
  simp only [Option.bind_eq_bind, Option.bind_some, Text.after?_mark _ gapFree,
    Option.bind_eq_some_iff, Option.pure_def, Option.some.injEq] at shown
  obtain ⟨inside, closed, same⟩ := shown
  obtain ⟨behind, whole⟩ := Text.exists_of_before?_mark closed
  have comma : ',' ∈ inside := by
    rcases split_append whole.symm with ⟨_, within, _⟩ | ⟨front, before, behind⟩
    · simp [within]
    · rcases List.cons_eq_append_iff.mp behind with ⟨rfl, mark⟩ | ⟨more, rfl, _⟩
      · cases mark
      · exact absurd (by simp [before]) solidFree
  have inToken : ',' ∈ (Vocabulary.token member).toList := by
    rw [← same]
    exact Text.mem_trim (by decide) comma
  exact (Vocabulary.Capital.capital member).not_mem (by decide) inToken

theorem not_showsToken_of_name (gap : List Char) (named : Field)
    (found : valueText field record = some (gap ++ (named.key ++ rest))) (gapFree : '"' ∉ gap) :
    ¬ShowsToken field record member := by
  intro shown
  have solid : Text.trim named.name.toList = named.name.toList := by cases named <;> decide
  have name : string? field record = some (Text.trim named.name.toList) :=
    string?_of_literal gap (by simpa [Field.key_eq, quotedName] using found) gapFree
      named.quote_not_mem
  rw [solid] at name
  have same := Option.some.inj (shown.symm.trans name)
  exact (Vocabulary.Capital.capital member).ne_name named (String.toList_inj.mp same)

theorem not_showsToken_of_damaged {left right : List Char} {letter : Char} {original : α}
    (written : quotedName (Vocabulary.token original).toList = left ++ letter :: right)
    (isStructural : letter ∈ Rule.structural)
    (found : valueText field record = some (' ' :: (left ++ (right ++ ',' :: rest)))) :
    ¬ShowsToken field record member := by
  have capital := Vocabulary.Capital.capital original
  have quoteFree : '"' ∉ (Vocabulary.token original).toList := capital.not_mem (by decide)
  rw [quotedName] at written
  rcases List.cons_eq_append_iff.mp written with ⟨rfl, opened⟩ | ⟨inside, rfl, closing⟩
  · cases opened
    have opened : valueText field record =
        some (' ' :: (Vocabulary.token original).toList ++ '"' :: ([] ++ ',' :: rest)) := by
      simpa using found
    exact not_showsToken_of_comma _ _ opened (by simp [quoteFree]) List.not_mem_nil
  · rcases split_append closing with ⟨_, inToken, _⟩ | ⟨beyond, rfl, last⟩
    · have capitals : Vocabulary.isCapital letter :=
        capital.isCapital_of_mem letter (by simp [inToken])
      have other := Rule.refused_of_mem Vocabulary.isCapital isStructural (by decide)
      simp [capitals] at other
    · obtain ⟨rfl, rfl, rfl⟩ := split_singleton last
      have unclosed : valueText field record =
          some ([' '] ++ '"' :: ((Vocabulary.token original).toList ++ ',' :: rest)) := by
        simpa using found
      exact not_showsToken_of_comma _ _ unclosed (by decide) quoteFree

end Tokens

/-! ## Lists

Items have their quotes taken off in pairs, so a list with a quote or a comma too few leaves a quote
in one of them. -/

theorem count_quote_unquote {item : List Char} (bare : '"' ∉ unquote item) :
    item.count '"' = 0 ∨ item.count '"' = 2 := by
  cases item with
  | nil => exact .inl rfl
  | cons first rest =>
      by_cases opened : first = '"'
      · subst opened
        by_cases closed : rest.getLast? = some '"'
        · obtain ⟨inside, rfl⟩ := List.getLast?_eq_some_iff.mp closed
          rw [unquote, if_pos closed, List.dropLast_concat] at bare
          right
          simp [List.count_eq_zero.mpr bare]
        · rw [unquote, if_neg closed] at bare
          exact absurd List.mem_cons_self bare
      · have same : unquote (first :: rest) = first :: rest := by
          unfold unquote
          split <;> simp_all
        rw [same] at bare
        exact .inl (List.count_eq_zero.mpr bare)

theorem exists_pair_of_itemsOf {piece : List Char} (free : ',' ∉ piece)
    (bare : ∀ item ∈ itemsOf piece, '"' ∉ item) :
    ∃ pairs, piece.count '"' = 2 * pairs ∧ pairs ≤ 1 := by
  have bareItem : '"' ∉ unquote (Text.trim piece) := by
    intro inside
    have item : unquote (Text.trim piece) ∈ itemsOf piece := by
      rw [itemsOf_of_not_mem free]
      simp [List.ne_nil_of_mem inside]
    exact bare _ item inside
  have counted := count_quote_unquote bareItem
  rw [Text.count_trim (by decide)] at counted
  rcases counted with none | two
  · exact ⟨0, none, by omega⟩
  · exact ⟨1, two, by omega⟩

/-- Items without quotes had theirs in pairs, at most one pair each. -/
theorem exists_pairs_of_itemsOf (text : List Char) (bare : ∀ item ∈ itemsOf text, '"' ∉ item) :
    ∃ pairs, text.count '"' = 2 * pairs ∧ pairs ≤ text.count ',' + 1 := by
  by_cases comma : ',' ∈ text
  · obtain ⟨first, second, rfl, free⟩ := List.eq_append_cons_of_mem comma
    rw [itemsOf_append_comma] at bare
    obtain ⟨one, quotesFirst, small⟩ := exists_pair_of_itemsOf free fun item inside =>
      bare item (List.mem_append_left _ inside)
    obtain ⟨more, quotesSecond, most⟩ := exists_pairs_of_itemsOf second fun item inside =>
      bare item (List.mem_append_right _ inside)
    refine ⟨one + more, ?_, ?_⟩
    · rw [List.count_append, List.count_cons_of_ne (by decide), quotesFirst, quotesSecond]
      omega
    · rw [List.count_append, List.count_cons_self]
      omega
  · obtain ⟨pairs, quotes, small⟩ := exists_pair_of_itemsOf comma bare
    exact ⟨pairs, quotes, by omega⟩
termination_by text.length
decreasing_by simp_all; omega

theorem count_quoted (document : Document) :
    (Rule.quoted document).count '"' = 2 ∧ (Rule.quoted document).count ',' = 0 := by
  have capital := Vocabulary.Capital.capital document
  have quotes : (Vocabulary.token document).toList.count '"' = 0 :=
    List.count_eq_zero.mpr (capital.not_mem (by decide))
  have commas : (Vocabulary.token document).toList.count ',' = 0 :=
    List.count_eq_zero.mpr (capital.not_mem (by decide))
  simp [Rule.quoted, Text.quotedName, quotes, commas]

theorem count_listing (first : Document) (rest : List Document) :
    (Rule.listing (first :: rest)).count '"' = 2 * (rest.length + 1) ∧
      (Rule.listing (first :: rest)).count ',' = rest.length := by
  have line (level : Nat) :
      (Json.Value.newline level).count '"' = 0 ∧ (Json.Value.newline level).count ',' = 0 := by
    simp [Json.Value.newline, List.count_replicate]
  have item := count_quoted first
  induction rest generalizing first with
  | nil => simp [Rule.listing, line, item]
  | cons next rest ih =>
      obtain ⟨quotes, commas⟩ := ih next (count_quoted next)
      rw [Rule.listing, List.count_append, List.count_append, List.count_append, List.count_append,
        List.count_cons_of_ne (by decide), List.count_cons_self, quotes, commas, List.length_cons]
      simp only [line, item]
      omega

/-- A list that lost a quote or a comma has an item with a quote. -/
theorem not_bare_of_listing {documents : List Document} {left right : List Char} {letter : Char}
    (written : Rule.listing documents = left ++ letter :: right)
    (mark : letter = '"' ∨ letter = ',') : ¬∀ item ∈ itemsOf (left ++ right), '"' ∉ item := by
  intro bare
  obtain ⟨pairs, quotes, few⟩ := exists_pairs_of_itemsOf _ bare
  cases documents with
  | nil => simp [Rule.listing] at written
  | cons first rest =>
      obtain ⟨allQuotes, allCommas⟩ := count_listing first rest
      rw [written] at allQuotes allCommas
      rw [List.count_append] at allQuotes allCommas quotes few
      -- Without a quote their number is odd; without a comma there are too many of them.
      rcases mark with rfl | rfl
      · rw [List.count_cons_self] at allQuotes
        omega
      · rw [List.count_cons_of_ne (by decide)] at allQuotes
        rw [List.count_cons_self] at allCommas
        omega

end Record

end Visa
