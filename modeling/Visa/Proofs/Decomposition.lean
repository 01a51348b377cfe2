import Visa.Proofs.Nesting

namespace Visa.Record

/-! The cut of a text as a decomposition that is defined by braces alone, with no scan: records,
gaps between them, and a rest that is never closed. A text has exactly one, and it is what the scan
finds. -/

variable {text front gap more : List Char} {letter : Char}

/-! ## Records and rests -/

/-- The first brace of the text is closed by its last letter and not before. -/
structure IsClosed (text : List Char) : Prop where
  first : text.head? = some '{'
  last : text.getLast? = some '}'
  level : text.count '{' = text.count '}'
  within : ∀ front, front <+: text → front ≠ [] → front ≠ text →
    front.count '}' < front.count '{'

/-- The first brace of the text is not closed in it. -/
structure IsUnclosed (text : List Char) : Prop where
  first : text.head? = some '{'
  within : ∀ front, front <+: text → front ≠ [] → front.count '}' < front.count '{'

theorem IsClosed.ne_nil (closed : IsClosed text) : text ≠ [] := by
  rintro rfl
  cases closed.first

theorem IsUnclosed.deep (unclosed : IsUnclosed text) : text.count '}' < text.count '{' := by
  refine unclosed.within text List.prefix_rfl ?_
  rintro rfl
  cases unclosed.first

theorem isUnclosed_singleton : IsUnclosed ['{'] where
  first := rfl
  within front isStart nonempty := by
    rcases List.prefix_cons_iff.mp isStart with rfl | ⟨rest, rfl, within⟩
    · exact absurd rfl nonempty
    · rw [List.prefix_nil.mp within]
      decide

theorem head?_append_singleton (first : text.head? = some '{') (letter : Char) :
    (text ++ [letter]).head? = some '{' := by
  rw [List.head?_append, first, Option.some_or]

theorem IsUnclosed.append (unclosed : IsUnclosed text)
    (deep : (text ++ [letter]).count '}' < (text ++ [letter]).count '{') :
    IsUnclosed (text ++ [letter]) where
  first := head?_append_singleton unclosed.first letter
  within front isStart nonempty := by
    rcases List.prefix_concat_iff.mp isStart with rfl | within
    · exact deep
    · exact unclosed.within front within nonempty

theorem IsUnclosed.close (unclosed : IsUnclosed text)
    (level : text.count '{' = text.count '}' + 1) : IsClosed (text ++ ['}']) where
  first := head?_append_singleton unclosed.first '}'
  last := List.getLast?_concat ..
  level := by
    rw [List.count_append, List.count_append]
    simpa using level
  within front isStart nonempty proper := by
    rcases List.prefix_concat_iff.mp isStart with rfl | within
    · exact absurd rfl proper
    · exact unclosed.within front within nonempty

/-- Nothing that starts with a record is unclosed. -/
theorem IsClosed.not_isUnclosed_append (closed : IsClosed text) : ¬IsUnclosed (text ++ more) := by
  intro unclosed
  have deep := unclosed.within text (List.prefix_append _ _) closed.ne_nil
  exact absurd closed.level (Nat.ne_of_gt deep)

theorem IsClosed.eq_of_prefix {other : List Char} (closed : IsClosed text)
    (closedOther : IsClosed other) (isStart : text <+: other) : text = other := by
  by_contra proper
  have deep := closedOther.within text isStart closed.ne_nil proper
  exact absurd closed.level (Nat.ne_of_gt deep)

/-- Two records that start a text are the same. -/
theorem IsClosed.eq_of_append {other moreOther : List Char} (closed : IsClosed text)
    (closedOther : IsClosed other) (same : text ++ more = other ++ moreOther) : text = other := by
  have second : other <+: text ++ more := ⟨moreOther, same.symm⟩
  rcases List.prefix_or_prefix_of_prefix (List.prefix_append text more) second with within | beyond
  · exact closed.eq_of_prefix closedOther within
  · exact (closedOther.eq_of_prefix closed beyond).symm

/-! ## Partings -/

/-- Records with the gap in front of each, the last gap, and the rest. -/
structure Parting where
  pieces : List (List Char × List Char)
  gap : List Char
  rest : List Char

namespace Parting

def joined (parting : Parting) : List Char :=
  (parting.pieces.flatMap fun piece => piece.1 ++ piece.2) ++ (parting.gap ++ parting.rest)

/-- Gaps hold no opening brace, and only the rest may lack a closing one. -/
structure Proper (parting : Parting) : Prop where
  gaps : ∀ piece ∈ parting.pieces, '{' ∉ piece.1
  records : ∀ piece ∈ parting.pieces, IsClosed piece.2
  gap : '{' ∉ parting.gap
  rest : parting.rest = [] ∨ IsUnclosed parting.rest

/-- What the parting keeps: its records, and the rest as a tail unless it is empty. -/
def cut (parting : Parting) : Cut where
  records := parting.pieces.map Prod.snd
  tail := if parting.rest = [] then none else some parting.rest

/-! ## Uniqueness -/

theorem takeWhile_gap (free : '{' ∉ gap) (heads : more = [] ∨ more.head? = some '{') :
    (gap ++ more).takeWhile (· != '{') = gap := by
  have passed : ∀ letter ∈ gap, (letter != '{') = true := fun letter inside =>
    bne_iff_ne.mpr fun same => free (same ▸ inside)
  rw [List.takeWhile_append_of_pos passed]
  rcases heads with rfl | first
  · simp
  · obtain ⟨behind, rfl⟩ := List.head?_eq_some_iff.mp first
    simp

/-- A gap ends where the next brace opens. -/
theorem eq_of_gap_append {otherGap other : List Char} (free : '{' ∉ gap)
    (freeOther : '{' ∉ otherGap) (heads : more = [] ∨ more.head? = some '{')
    (headsOther : other = [] ∨ other.head? = some '{') (same : gap ++ more = otherGap ++ other) :
    gap = otherGap ∧ more = other := by
  have gaps : gap = otherGap := by
    rw [← takeWhile_gap free heads, same, takeWhile_gap freeOther headsOther]
  rw [gaps] at same
  exact ⟨gaps, List.append_cancel_left same⟩

theorem joined_cons (piece : List Char × List Char) (pieces : List (List Char × List Char))
    (gap rest : List Char) :
    joined ⟨piece :: pieces, gap, rest⟩ = piece.1 ++ (piece.2 ++ joined ⟨pieces, gap, rest⟩) := by
  simp [joined]

theorem Proper.heads_rest {parting : Parting} (proper : parting.Proper) :
    parting.rest = [] ∨ parting.rest.head? = some '{' :=
  proper.rest.imp id IsUnclosed.first

theorem Proper.tail {piece : List Char × List Char} {pieces : List (List Char × List Char)}
    {rest : List Char} (proper : Proper ⟨piece :: pieces, gap, rest⟩) :
    '{' ∉ piece.1 ∧ IsClosed piece.2 ∧ Proper ⟨pieces, gap, rest⟩ := by
  obtain ⟨freeFirst, free⟩ := List.forall_mem_cons.mp proper.gaps
  obtain ⟨closedFirst, closed⟩ := List.forall_mem_cons.mp proper.records
  exact ⟨freeFirst, closedFirst, free, closed, proper.gap, proper.rest⟩

/-- A record is no part of a gap and a rest. -/
theorem not_proper_of_record {piece : List Char × List Char} {otherGap rest : List Char}
    (free : '{' ∉ piece.1) (closed : IsClosed piece.2) (proper : Proper ⟨[], otherGap, rest⟩) :
    piece.1 ++ (piece.2 ++ more) ≠ joined ⟨[], otherGap, rest⟩ := by
  intro same
  have heads : piece.2 ++ more = [] ∨ (piece.2 ++ more).head? = some '{' := by
    rw [List.head?_append, closed.first]
    exact .inr rfl
  obtain ⟨_, rfl⟩ := eq_of_gap_append free proper.gap heads proper.heads_rest same
  rcases proper.rest with empty | unclosed
  · exact closed.ne_nil (List.append_eq_nil_iff.mp empty).1
  · exact closed.not_isUnclosed_append unclosed

theorem Proper.eq_of_joined {left right : Parting} (proper : left.Proper) (properOther : right.Proper)
    (same : left.joined = right.joined) : left = right := by
  obtain ⟨pieces, gap, rest⟩ := left
  obtain ⟨otherPieces, otherGap, otherRest⟩ := right
  induction pieces generalizing otherPieces with
  | nil =>
      cases otherPieces with
      | nil =>
          obtain ⟨rfl, rfl⟩ := eq_of_gap_append proper.gap properOther.gap proper.heads_rest
            properOther.heads_rest same
          rfl
      | cons piece others =>
          obtain ⟨free, closed, _⟩ := properOther.tail
          rw [joined_cons] at same
          exact absurd same.symm (not_proper_of_record free closed proper)
  | cons piece pieces ih =>
      obtain ⟨free, closed, properLater⟩ := proper.tail
      cases otherPieces with
      | nil =>
          rw [joined_cons] at same
          exact absurd same (not_proper_of_record free closed properOther)
      | cons other others =>
          obtain ⟨freeOther, closedOther, properOthers⟩ := properOther.tail
          rw [joined_cons, joined_cons] at same
          have heads {record : List Char} (closed : IsClosed record) (more : List Char) :
              record ++ more = [] ∨ (record ++ more).head? = some '{' := by
            rw [List.head?_append, closed.first]
            exact .inr rfl
          obtain ⟨gaps, behind⟩ := eq_of_gap_append free freeOther (heads closed _)
            (heads closedOther _) same
          have records := closed.eq_of_append closedOther behind
          rw [records] at behind
          have later := ih properLater others properOthers (List.append_cancel_left behind)
          cases later
          rw [Prod.ext gaps records]

/-! ## Existence -/

/-- The scan stands behind the text of the parting: it has finished the records and holds the
rest. -/
structure Behind (parting : Parting) (scan : Scan) : Prop where
  proper : parting.Proper
  finished : scan.finished = (parting.pieces.map Prod.snd).reverse
  held : scan.held.reverse = parting.rest
  level : parting.rest.count '{' = parting.rest.count '}' + scan.depth

theorem Behind.rest_eq_nil {parting : Parting} {scan : Scan} (behind : parting.Behind scan)
    (outside : scan.depth = 0) : parting.rest = [] := by
  refine behind.proper.rest.resolve_right fun unclosed => ?_
  have deep := unclosed.deep
  have level := behind.level
  omega

theorem Behind.isUnclosed {parting : Parting} {scan : Scan} (behind : parting.Behind scan)
    (inside : scan.depth ≠ 0) : IsUnclosed parting.rest := by
  refine behind.proper.rest.resolve_left fun empty => ?_
  have level := behind.level
  rw [empty] at level
  exact inside (by simpa using level.symm)

theorem Behind.step {parting : Parting} {scan : Scan} (behind : parting.Behind scan)
    (letter : Char) :
    ∃ next : Parting, next.Behind (scan.step letter) ∧ next.joined = parting.joined ++ [letter] := by
  obtain ⟨pieces, gap, rest⟩ := parting
  obtain ⟨⟨gaps, records, free, _⟩, finished, held, level⟩ := id behind
  rcases Scan.step_cases scan letter with
    ⟨outside, other, same⟩ | ⟨outside, rfl, same⟩ | ⟨last, rfl, same⟩ |
    ⟨inside, depth, same, deeper, deep⟩
  · -- The letter goes on the last gap.
    have empty : rest = [] := behind.rest_eq_nil outside
    subst empty
    have freeLonger : '{' ∉ gap ++ [letter] := by simp [free, Ne.symm other]
    rw [same]
    exact ⟨⟨pieces, gap ++ [letter], []⟩, ⟨⟨gaps, records, freeLonger, .inl rfl⟩, finished, held,
      level⟩, by simp [joined]⟩
  · -- The letter opens a record.
    have empty : rest = [] := behind.rest_eq_nil outside
    subst empty
    rw [same]
    exact ⟨⟨pieces, gap, ['{']⟩, ⟨⟨gaps, records, free, .inr isUnclosed_singleton⟩, finished, rfl,
      rfl⟩, by simp [joined]⟩
  · -- The letter closes the record, and the next gap is still empty.
    have unclosed : IsUnclosed rest := behind.isUnclosed (by omega)
    have closed : IsClosed (rest ++ ['}']) := unclosed.close (by simpa [last] using level)
    rw [same]
    refine ⟨⟨pieces ++ [(gap, rest ++ ['}'])], [], []⟩, ⟨⟨?_, ?_, List.not_mem_nil, .inl rfl⟩,
      ?_, rfl, rfl⟩, by simp [joined]⟩
    · simpa [or_imp, forall_and] using And.intro gaps free
    · simpa [or_imp, forall_and] using And.intro records closed
    · simp [finished, held]
  · -- The record goes on.
    have unclosed : IsUnclosed rest := behind.isUnclosed inside
    have longer : (rest ++ [letter]).count '{' = (rest ++ [letter]).count '}' + depth := by
      rw [List.count_append, List.count_append]
      have before : rest.count '{' = rest.count '}' + scan.depth := level
      omega
    rw [same]
    refine ⟨⟨pieces, gap, rest ++ [letter]⟩, ⟨⟨gaps, records, free, .inr (unclosed.append ?_)⟩,
      finished, ?_, longer⟩, by simp [joined]⟩
    · omega
    · simp [held]

theorem exists_behind (text : List Char) :
    ∃ parting : Parting, parting.Behind (text.foldl Scan.step Scan.start) ∧
      parting.joined = text := by
  induction text using List.reverseRecOn with
  | nil =>
      exact ⟨⟨[], [], []⟩, ⟨⟨nofun, nofun, List.not_mem_nil, .inl rfl⟩, rfl, rfl, rfl⟩, rfl⟩
  | append_singleton text letter ih =>
      obtain ⟨parting, behind, whole⟩ := ih
      obtain ⟨next, behindNext, longer⟩ := behind.step letter
      rw [List.foldl_append]
      exact ⟨next, behindNext, by rw [longer, whole]⟩

theorem Behind.cut_eq {parting : Parting} {scan : Scan} (behind : parting.Behind scan) :
    scan.finish = parting.cut := by
  rw [Scan.finish, cut, behind.finished, behind.held, List.reverse_reverse]
  by_cases outside : scan.depth = 0
  · rw [if_pos outside, if_pos (behind.rest_eq_nil outside)]
  · have unclosed := behind.isUnclosed outside
    have nonempty : parting.rest ≠ [] := by
      intro empty
      have first := unclosed.first
      rw [empty] at first
      cases first
    rw [if_neg outside, if_neg nonempty]

/-! ## Places -/

/-- Where pieces start and end, each behind its gap, from a place on. -/
def spansFrom (start : Nat) : List (List Char × List Char) → List (Nat × Nat)
  | [] => []
  | piece :: later =>
      (start + piece.1.length, start + piece.1.length + piece.2.length) ::
        spansFrom (start + piece.1.length + piece.2.length) later

/-- The records, and the rest unless it is empty, with the gaps in front of them. -/
def kept (parting : Parting) : List (List Char × List Char) :=
  parting.pieces ++ if parting.rest = [] then [] else [(parting.gap, parting.rest)]

/-- The places of the records and of the rest. -/
def spans (parting : Parting) : List (Nat × Nat) := spansFrom 0 parting.kept

variable {pieces : List (List Char × List Char)} {start index : Nat} {span : Nat × Nat}

theorem le_of_mem_spansFrom (inside : span ∈ spansFrom start pieces) : start ≤ span.1 := by
  induction pieces generalizing start with
  | nil => contradiction
  | cons piece later ih =>
      rcases List.mem_cons.mp inside with rfl | behind
      · exact Nat.le_add_right _ _
      · have further := ih behind
        omega

theorem pairwise_spansFrom (start : Nat) (pieces : List (List Char × List Char)) :
    (spansFrom start pieces).Pairwise fun left right => left.2 ≤ right.1 := by
  induction pieces generalizing start with
  | nil => exact .nil
  | cons piece later ih => exact .cons (fun _ => le_of_mem_spansFrom) (ih _)

/-- Spans in a row share no place. -/
theorem eq_of_mem_spans {spans : List (Nat × Nat)} {other : Nat × Nat}
    (apart : spans.Pairwise fun left right => left.2 ≤ right.1) (first : span ∈ spans)
    (second : other ∈ spans) (within : span.1 ≤ index ∧ index < span.2)
    (withinOther : other.1 ≤ index ∧ index < other.2) : span = other := by
  induction apart with
  | nil => contradiction
  | cons before _ ih =>
      rcases List.mem_cons.mp first with rfl | firstLater
      · rcases List.mem_cons.mp second with rfl | secondLater
        · rfl
        · have ordered := before other secondLater
          omega
      · rcases List.mem_cons.mp second with rfl | secondLater
        · have ordered := before span firstLater
          omega
        · exact ih firstLater secondLater

theorem exists_span (start : Nat) (free : ∀ piece ∈ pieces, '{' ∉ piece.1) (trailFree : '{' ∉ more)
    (opening : ((pieces.flatMap fun piece => piece.1 ++ piece.2) ++ more)[index]? = some '{') :
    ∃ span ∈ spansFrom start pieces, span.1 ≤ start + index ∧ start + index < span.2 := by
  induction pieces generalizing start index with
  | nil => exact absurd (List.mem_of_getElem? opening) trailFree
  | cons piece later ih =>
      obtain ⟨freeFirst, freeLater⟩ := List.forall_mem_cons.mp free
      rw [List.flatMap_cons, List.append_assoc, List.append_assoc] at opening
      by_cases inGap : index < piece.1.length
      · rw [List.getElem?_append_left inGap] at opening
        exact absurd (List.mem_of_getElem? opening) freeFirst
      by_cases inPiece : index < piece.1.length + piece.2.length
      · exact ⟨_, List.mem_cons_self, by simp only; omega, by simp only; omega⟩
      · rw [List.getElem?_append_right (by omega), List.getElem?_append_right (by omega)] at opening
        obtain ⟨span, inside, lower, upper⟩ :=
          ih (start + piece.1.length + piece.2.length) freeLater opening
        exact ⟨span, List.mem_cons_of_mem _ inside, by omega, by omega⟩

theorem take_drop_append (front middle back : List Char) :
    ((front ++ (middle ++ back)).take (front.length + middle.length)).drop front.length =
      middle := by
  rw [← List.append_assoc, ← List.length_append, List.take_left, List.drop_left]

/-- The spans hold the pieces. -/
theorem map_spansFrom (lead : List Char) (pieces : List (List Char × List Char))
    (more : List Char) :
    (spansFrom lead.length pieces).map (fun span =>
        ((lead ++ ((pieces.flatMap fun piece => piece.1 ++ piece.2) ++ more)).take span.2).drop
          span.1) = pieces.map Prod.snd := by
  induction pieces generalizing lead with
  | nil => rfl
  | cons piece later ih =>
      have behind := ih (lead ++ piece.1 ++ piece.2)
      have first := take_drop_append (lead ++ piece.1) piece.2
        ((later.flatMap fun piece => piece.1 ++ piece.2) ++ more)
      simp only [List.length_append, List.append_assoc, Nat.add_assoc] at behind first
      simp only [spansFrom, List.map_cons, List.flatMap_cons, List.append_assoc, Nat.add_assoc,
        behind, first]

theorem joined_eq_kept (parting : Parting) :
    parting.joined = (parting.kept.flatMap fun piece => piece.1 ++ piece.2) ++
      if parting.rest = [] then parting.gap else [] := by
  rw [joined, kept]
  by_cases empty : parting.rest = []
  · simp [empty]
  · simp [empty]

theorem map_kept (parting : Parting) :
    parting.kept.map Prod.snd = parting.cut.records ++ parting.cut.tail.toList := by
  rw [kept, cut]
  by_cases empty : parting.rest = []
  · simp [empty]
  · simp [empty]

theorem Proper.kept_free {parting : Parting} (proper : parting.Proper) :
    (∀ piece ∈ parting.kept, '{' ∉ piece.1) ∧
      '{' ∉ if parting.rest = [] then parting.gap else [] := by
  rw [kept]
  by_cases empty : parting.rest = []
  · simpa [empty] using And.intro proper.gaps proper.gap
  · simpa [empty, or_imp, forall_and] using And.intro proper.gaps proper.gap

/-- The spans of a proper parting hold what it keeps, in order and apart from each other, and
each opening brace. -/
structure Placed (parting : Parting) : Prop where
  holds : parting.spans.map (fun span => (parting.joined.take span.2).drop span.1) =
    parting.cut.records ++ parting.cut.tail.toList
  apart : parting.spans.Pairwise fun left right => left.2 ≤ right.1
  braces : ∀ index, parting.joined[index]? = some '{' →
    ∃! span, span ∈ parting.spans ∧ span.1 ≤ index ∧ index < span.2

theorem Proper.placed {parting : Parting} (proper : parting.Proper) : parting.Placed where
  holds := by
    have held := map_spansFrom [] parting.kept (if parting.rest = [] then parting.gap else [])
    rw [List.nil_append, ← joined_eq_kept, map_kept] at held
    exact held
  apart := pairwise_spansFrom 0 parting.kept
  braces index opening := by
    obtain ⟨free, trailFree⟩ := proper.kept_free
    rw [joined_eq_kept] at opening
    obtain ⟨span, inside, within⟩ := exists_span 0 free trailFree opening
    rw [Nat.zero_add] at within
    refine ⟨span, ⟨inside, within⟩, fun other found => ?_⟩
    exact eq_of_mem_spans (pairwise_spansFrom 0 parting.kept) found.1 inside found.2 within

end Parting

/-! ## The body -/

/-- What is inside of a text: the text without the blanks around it, and of that all but one opening
bracket at the start and then one closing bracket at the end, where there are such. -/
inductive IsInside (text inside : List Char) : Prop
  | parts {lead trimmed trail opened : List Char} (whole : text = lead ++ (trimmed ++ trail))
      (blankLead : ∀ letter ∈ lead, Text.isBlank letter)
      (blankTrail : ∀ letter ∈ trail, Text.isBlank letter)
      (first : ∀ letter, trimmed.head? = some letter → Text.isBlank letter = false)
      (last : ∀ letter, trimmed.getLast? = some letter → Text.isBlank letter = false)
      (start : trimmed = '[' :: opened ∨ trimmed.head? ≠ some '[' ∧ opened = trimmed)
      (finish : opened = inside ++ [']'] ∨ opened.getLast? ≠ some ']' ∧ inside = opened)

theorem IsInside.eq_body {inside : List Char} (isInside : IsInside text inside) :
    inside = body text := by
  cases isInside with
  | @parts lead trimmed trail opened whole blankLead blankTrail first last start finish =>
      have trims : Text.trim text = trimmed := by
        rw [whole, Text.trim_padded _ blankLead blankTrail, Text.trim_eq_self first last]
      have opens : (if trimmed.head? = some '[' then trimmed.tail else trimmed) = opened := by
        rcases start with rfl | ⟨other, rfl⟩
        · rfl
        · rw [if_neg other]
      rw [body, trims, opens]
      rcases finish with rfl | ⟨other, rfl⟩
      · rw [List.getLast?_concat, if_pos rfl, List.dropLast_concat]
      · rw [if_neg other]

theorem opened_or (text : List Char) :
    text = '[' :: (if text.head? = some '[' then text.tail else text) ∨
      text.head? ≠ some '[' ∧ (if text.head? = some '[' then text.tail else text) = text := by
  split
  · exact .inl (List.cons_head?_tail ‹_›).symm
  · exact .inr ⟨‹_›, rfl⟩

theorem closed_or (text : List Char) :
    text = (if text.getLast? = some ']' then text.dropLast else text) ++ [']'] ∨
      text.getLast? ≠ some ']' ∧
        (if text.getLast? = some ']' then text.dropLast else text) = text := by
  split
  · exact .inl (List.dropLast_append_getLast? _ ‹_›).symm
  · exact .inr ⟨‹_›, rfl⟩

theorem isInside_body (text : List Char) : IsInside text (body text) := by
  obtain ⟨lead, trail, whole, blankLead, blankTrail⟩ := Text.exists_append_trim text
  exact .parts whole blankLead blankTrail (fun _ => Text.isBlank_of_head?_trim)
    (fun _ => Text.isBlank_of_getLast?_trim) (opened_or _) (closed_or _)

theorem isInside_iff {inside : List Char} : IsInside text inside ↔ inside = body text := by
  constructor
  · exact IsInside.eq_body
  · rintro rfl
    exact isInside_body text

/-- The body is what is inside of the text, without the blanks around it and without a bracket on
either side. It has one proper parting, and the cut of the text is what that parting keeps: disjoint
pieces in the order of the text, with each opening brace in one of them. -/
theorem existsUnique_parting (text : List Char) :
    (∀ inside, IsInside text inside ↔ inside = body text) ∧
      (∃! parting : Parting, parting.Proper ∧ parting.joined = body text) ∧
      ∀ parting : Parting, parting.Proper → parting.joined = body text →
        Cut.ofText text = ⟨parting.pieces.map Prod.snd,
            if parting.rest = [] then none else some parting.rest⟩ ∧
          parting.spans.map (fun span => ((body text).take span.2).drop span.1) =
            (Cut.ofText text).records ++ (Cut.ofText text).tail.toList ∧
          parting.spans.Pairwise (fun left right => left.2 ≤ right.1) ∧
          ∀ index, (body text)[index]? = some '{' →
            ∃! span, span ∈ parting.spans ∧ span.1 ≤ index ∧ index < span.2 := by
  obtain ⟨found, behind, whole⟩ := Parting.exists_behind (body text)
  refine ⟨fun inside => isInside_iff, ⟨found, ⟨behind.proper, whole⟩, fun other fits => ?_⟩,
    fun parting proper same => ?_⟩
  · exact fits.1.eq_of_joined behind.proper (fits.2.trans whole.symm)
  · have unique : found = parting := behind.proper.eq_of_joined proper (whole.trans same.symm)
    subst unique
    have cut : Cut.ofText text = found.cut := behind.cut_eq
    obtain ⟨holds, apart, braces⟩ := proper.placed
    rw [same] at holds braces
    rw [cut]
    exact ⟨rfl, holds, apart, braces⟩

end Visa.Record
