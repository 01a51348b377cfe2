import Visa.Proofs.Json.Tokens

namespace Visa.Json.Draft

/-! The stack machine that puts drafts together, as an account of the tokens it has gone over: one
step adds its token to the account or gives up on the text for good. -/

def Frame.Waiting : Frame → Prop
  | .list _ | .member _ _ => True
  | .object _ => False

/-- The tokens up to the place where the next item, member or value is due. -/
def spent : List Frame → List Token
  | [] => []
  | .list items :: outer => spent outer ++ .listOpen :: continued (items.reverse.map tokens)
  | .object members :: outer =>
      spent outer ++ .objectOpen :: continued (memberTokens members.reverse)
  | .member members key :: outer =>
      spent outer ++ .objectOpen :: (continued (memberTokens members.reverse) ++
        (key.tokens ++ [.colon]))

/-- A state without flaws and the tokens that led to it. -/
inductive Reads : State → List Token → Prop
  | value {frames : List Frame} (waiting : ∀ frame ∈ frames, frame.Waiting) :
      Reads (.reading frames .value) (spent frames)
  | firstItem {outer : List Frame} (waiting : ∀ frame ∈ outer, frame.Waiting) :
      Reads (.reading (.list [] :: outer) .firstItem) (spent (.list [] :: outer))
  | firstKey {outer : List Frame} (waiting : ∀ frame ∈ outer, frame.Waiting) :
      Reads (.reading (.object [] :: outer) .firstKey) (spent (.object [] :: outer))
  | key {members : List (Draft × Draft)} {outer : List Frame}
      (waiting : ∀ frame ∈ outer, frame.Waiting) :
      Reads (.reading (.object members :: outer) .key) (spent (.object members :: outer))
  | colon {members : List (Draft × Draft)} {name : Draft} {outer : List Frame}
      (waiting : ∀ frame ∈ outer, frame.Waiting) :
      Reads (.reading (.member members name :: outer) .colon)
        (spent (.object members :: outer) ++ name.tokens)
  | item {item : Draft} {items : List Draft} {outer : List Frame}
      (waiting : ∀ frame ∈ outer, frame.Waiting) :
      Reads (.reading (.list (item :: items) :: outer) .continuation)
        (spent (.list items :: outer) ++ item.tokens)
  | member {members : List (Draft × Draft)} {name value : Draft} {outer : List Frame}
      (waiting : ∀ frame ∈ outer, frame.Waiting) :
      Reads (.reading (.object ((name, value) :: members) :: outer) .continuation)
        (spent (.member members name :: outer) ++ value.tokens)
  | finished {draft : Draft} : Reads (.finished draft false) draft.tokens

/-- A state that no further token leads out of: there is a flaw, or text behind the value. -/
def Lost : State → Prop
  | .reading _ _ => False
  | .finished draft trailing => trailing = true ∨ ¬draft.Sound

/-! ## Flaws -/

theorem not_sound_list {items : List Draft} {flaw : Flaw} : ¬(list items (some flaw)).Sound :=
  nofun

theorem not_sound_object {members : List (Draft × Draft)} {flaw : Flaw} :
    ¬(object members (some flaw)).Sound :=
  nofun

theorem not_sound_unwind {flaw : Flaw} {frames : List Frame} {draft : Draft}
    (flawed : ¬draft.Sound) : ¬(unwind flaw frames draft).Sound := by
  induction frames generalizing draft with
  | nil => exact flawed
  | cons frame outer ih =>
      cases frame with
      | list items => exact ih not_sound_list
      | object members => exact ih not_sound_object
      | member members key => exact ih not_sound_object

theorem lost_stopAt (flaw : Flaw) (frames : List Frame) : Lost (stopAt flaw frames) :=
  .inr (not_sound_unwind nofun)

theorem lost_stopBetween (flaw : Flaw) (frames : List Frame) : Lost (stopBetween flaw frames) := by
  cases frames with
  | nil => exact .inr nofun
  | cons frame outer =>
      cases frame with
      | list items => exact .inr (not_sound_unwind not_sound_list)
      | object members => exact .inr (not_sound_unwind not_sound_object)
      | member members key => exact .inr (not_sound_unwind nofun)

theorem not_sound_close (frames : List Frame) (due : Due) : ¬(close frames due).Sound := by
  unfold close
  split
  · exact not_sound_unwind nofun
  · exact not_sound_unwind nofun
  · exact not_sound_unwind nofun
  · exact not_sound_unwind not_sound_list
  · exact not_sound_unwind not_sound_object
  · exact not_sound_unwind nofun

/-! ## Steps -/

theorem reads_place (draft : Draft) {frames : List Frame}
    (waiting : ∀ frame ∈ frames, frame.Waiting) :
    Reads (place draft frames) (spent frames ++ draft.tokens) := by
  cases frames with
  | nil => exact .finished
  | cons frame outer =>
      have below : ∀ frame ∈ outer, frame.Waiting := fun frame member =>
        waiting frame (List.mem_cons_of_mem _ member)
      cases frame with
      | list items => exact .item below
      | member members key => exact .member below
      | object members => exact (waiting (.object members) List.mem_cons_self).elim

theorem reads_list (items : List Draft) {outer : List Frame} {inside : List Token}
    (waiting : ∀ frame ∈ outer, frame.Waiting)
    (same : inside = separated (items.map tokens)) :
    Reads (place (.list items none) outer)
      (spent outer ++ .listOpen :: inside ++ [.listClose]) := by
  have placed := reads_place (.list items none) waiting
  rw [tokens, itemTokens_eq_map, ← same] at placed
  rw [List.append_assoc, List.cons_append]
  exact placed

theorem reads_object (members : List (Draft × Draft)) {outer : List Frame} {inside : List Token}
    (waiting : ∀ frame ∈ outer, frame.Waiting)
    (same : inside = separated (memberTokens members)) :
    Reads (place (.object members none) outer)
      (spent outer ++ .objectOpen :: inside ++ [.objectClose]) := by
  have placed := reads_place (.object members none) waiting
  rw [tokens, ← same] at placed
  rw [List.append_assoc, List.cons_append]
  exact placed

theorem memberTokens_concat (members : List (Draft × Draft)) (name value : Draft) :
    memberTokens (members ++ [(name, value)]) =
      memberTokens members ++ [name.tokens ++ .colon :: value.tokens] := by
  simp only [memberTokens_eq_map, List.map_append, List.map_cons, List.map_nil]

theorem reads_value {frames : List Frame} (token : Token)
    (waiting : ∀ frame ∈ frames, frame.Waiting) :
    Reads (value frames token) (spent frames ++ [token]) ∨ Lost (value frames token) := by
  cases token with
  | null => exact .inl (reads_place .null waiting)
  | bool value => exact .inl (reads_place (.bool value) waiting)
  | number value => exact .inl (reads_place (.number value) waiting)
  | string text => exact .inl (reads_place (.string text) waiting)
  | listOpen => exact .inl (.firstItem waiting)
  | objectOpen => exact .inl (.firstKey waiting)
  | unfinished => exact .inr (.inr (not_sound_unwind nofun))
  | flawed flaw => exact .inr (lost_stopAt flaw frames)
  | listClose | objectClose | comma | colon => exact .inr (lost_stopAt .malformed frames)

theorem reads_key (members : List (Draft × Draft)) {outer : List Frame} (token : Token)
    (waiting : ∀ frame ∈ outer, frame.Waiting) :
    Reads (key (.object members :: outer) token) (spent (.object members :: outer) ++ [token]) ∨
      Lost (key (.object members :: outer) token) := by
  cases token with
  | string text => exact .inl (.colon waiting)
  | _ => exact .inr (lost_stopAt .malformed _)

theorem reads_continuation_item {item : Draft} {items : List Draft} {outer : List Frame}
    (token : Token) (waiting : ∀ frame ∈ outer, frame.Waiting) :
    Reads (continuation (.list (item :: items) :: outer) token)
        (spent (.list items :: outer) ++ item.tokens ++ [token]) ∨
      Lost (continuation (.list (item :: items) :: outer) token) := by
  have stopped := lost_stopBetween .malformed (.list (item :: items) :: outer)
  cases token with
  | comma =>
      have account : spent (.list (item :: items) :: outer) =
          spent (.list items :: outer) ++ item.tokens ++ [.comma] := by
        simp [spent, continued_concat]
      rw [← account]
      exact .inl (.value (by simpa [Frame.Waiting] using waiting))
  | listClose =>
      have account :
          spent outer ++ .listOpen :: separated ((item :: items).reverse.map tokens) ++
            [.listClose] = spent (.list items :: outer) ++ item.tokens ++ [.listClose] := by
        simp [spent, separated_concat]
      rw [← account]
      exact .inl (reads_list _ waiting rfl)
  | _ => exact .inr stopped

theorem reads_continuation_member {members : List (Draft × Draft)} {name value : Draft}
    {outer : List Frame} (token : Token) (waiting : ∀ frame ∈ outer, frame.Waiting) :
    Reads (continuation (.object ((name, value) :: members) :: outer) token)
        (spent (.member members name :: outer) ++ value.tokens ++ [token]) ∨
      Lost (continuation (.object ((name, value) :: members) :: outer) token) := by
  have stopped := lost_stopBetween .malformed (.object ((name, value) :: members) :: outer)
  cases token with
  | comma =>
      have account : spent (.object ((name, value) :: members) :: outer) =
          spent (.member members name :: outer) ++ value.tokens ++ [.comma] := by
        simp [spent, memberTokens_concat, continued_concat]
      rw [← account]
      exact .inl (.key waiting)
  | objectClose =>
      have account :
          spent outer ++ .objectOpen ::
              separated (memberTokens ((name, value) :: members).reverse) ++ [.objectClose] =
          spent (.member members name :: outer) ++ value.tokens ++ [.objectClose] := by
        simp [spent, memberTokens_concat, separated_concat]
      rw [← account]
      exact .inl (reads_object _ waiting rfl)
  | _ => exact .inr stopped

/-- Every token is accounted for, or the text is given up. -/
theorem reads_step {state : State} {read : List Token} (token : Token) (reads : Reads state read) :
    Reads (step state token) (read ++ [token]) ∨ Lost (step state token) := by
  cases reads with
  | value waiting => exact reads_value token waiting
  | @firstItem outer waiting =>
      have inside : ∀ frame ∈ .list [] :: outer, frame.Waiting := by
        simpa [Frame.Waiting] using waiting
      have first := reads_value token inside
      cases token with
      | listClose =>
          exact .inl (reads_list [] waiting (by simp [separated, continued]))
      | _ => exact first
  | @firstKey outer waiting =>
      have first := reads_key [] token waiting
      cases token with
      | objectClose =>
          exact .inl (reads_object [] waiting (by
            simp [separated, continued, memberTokens]))
      | _ => exact first
  | @key members outer waiting => exact reads_key members token waiting
  | @colon members name outer waiting =>
      cases token with
      | colon =>
          have reads : Reads (.reading (.member members name :: outer) .value)
              (spent (.member members name :: outer)) :=
            .value (by simpa [Frame.Waiting] using waiting)
          simp only [spent, List.append_assoc, List.cons_append] at reads ⊢
          exact .inl reads
      | _ => exact .inr (lost_stopAt .malformed _)
  | item waiting => exact reads_continuation_item token waiting
  | member waiting => exact reads_continuation_member token waiting
  | finished => exact .inr (.inl rfl)

theorem lost_step {state : State} (token : Token) (lost : Lost state) :
    Lost (step state token) := by
  cases state with
  | reading frames due => exact lost.elim
  | finished draft trailing => exact .inl rfl

theorem reads_foldl_step {state : State} {read : List Token} (more : List Token)
    (known : Reads state read ∨ Lost state) :
    Reads (more.foldl step state) (read ++ more) ∨ Lost (more.foldl step state) := by
  induction more generalizing state read with
  | nil => simpa using known
  | cons token rest ih =>
      -- Once lost, always lost: only the account has to be carried on.
      have next : Reads (step state token) (read ++ [token]) ∨ Lost (step state token) := by
        rcases known with reads | lost
        · exact reads_step token reads
        · exact .inr (lost_step token lost)
      simpa using ih next

/-- A text with a sound draft and nothing behind it consists of the draft's tokens. -/
theorem tokens_ofText {text : List Char} {draft : Draft} (found : ofText text = (draft, false))
    (sound : draft.Sound) : Token.ofText text = draft.tokens := by
  have start : Reads start [] := @Reads.value [] (by simp)
  have known := reads_foldl_step (Token.ofText text) (.inl start)
  unfold ofText at found
  rw [List.nil_append] at known
  generalize (Token.ofText text).foldl step Draft.start = state at found known
  cases state with
  | reading frames due =>
      cases found
      exact absurd sound (not_sound_close frames due)
  | finished other trailing =>
      cases found
      rcases known with reads | flawed
      · generalize Token.ofText text = read at reads
        cases reads
        rfl
      · rcases flawed with trailing | unsound
        · contradiction
        · exact absurd sound unsound

end Visa.Json.Draft
